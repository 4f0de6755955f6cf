import ConstellationGate.Errors
import ConstellationGate.Transport.Packet
import Mathlib.Data.Rat.Defs

/-!
# The dead-letter queue

`resilience/dead_letter_queue.py`: a bounded record of the packets whose execution failed.
-/

namespace ConstellationGate

/-- One failed packet. -/
structure DeadLetterEntry (Dump : Type) where
  packetId : String
  action : String
  sourceNode : String
  destinationNode : String
  errorType : String
  errorMessage : String
  failedAt : ℚ
  packet : Dump

/-- The most recent failures, oldest first. -/
structure DeadLetterQueue (Dump : Type) where
  entries : List (DeadLetterEntry Dump)
  maxEntries : ℕ := 1000

namespace DeadLetterQueue

variable {Dump : Type}

/-- The entry for a packet that failed with an error. -/
def entryFor (packet : TransportPacket) (dump : Dump) (error : PyError) (now : ℚ) :
    DeadLetterEntry Dump where
  packetId := packet.header.packetId
  action := packet.header.action
  sourceNode := packet.address.sourceNode
  destinationNode := packet.address.destinationNode
  errorType := error.cls.name
  errorMessage := error.message
  failedAt := now
  packet := dump

/-- `put`: append an entry, and drop the oldest ones beyond the bound. -/
def put (q : DeadLetterQueue Dump) (packet : TransportPacket) (dump : Dump) (error : PyError)
    (now : ℚ) : DeadLetterQueue Dump :=
  let entries := q.entries ++ [entryFor packet dump error now]
  { q with entries := entries.drop (entries.length - q.maxEntries) }

end DeadLetterQueue

end ConstellationGate
