import ConstellationGate.Errors
import ConstellationGate.Lib.StableQueue
import ConstellationGate.Transport.Packet

/-!
# The priority queue of packets

`routing/priority_queue.py` over any `asyncio.PriorityQueue` that removes a least tuple.  What
becomes of two packets that are compared is left open.

No operation is suspended between its reading and its writing of the queue, so that the operations
of all tasks are a sequence.  A `get` that finds the queue empty waits; it tries again when it is
woken, which is one more `get` of the sequence.

`Serves` says what a packet queue should answer, in terms of the packets that have been put and not
yet returned.  Every sequence of operations is answered in this way (`priority_order`).
-/

namespace ConstellationGate

open StableQueue

variable {packetLess : TransportPacket → TransportPacket → Except PyError Bool}

/-- `PriorityPacketQueue`, without the counting of unfinished tasks. -/
structure PriorityPacketQueue (queue : LeastQueue packetLess ℕ) where
  packets : queue.Queue
  sequence : ℕ

/-- An operation on the queue. -/
inductive QueueOp
  | put (packet : TransportPacket)
  | get
  | drain

/-- What becomes of an operation. -/
inductive QueueOutcome
  | done
  | waits
  | returned (packet : TransportPacket)
  | drained (packets : List TransportPacket)
  | raised (exc : PyError)
  /-- The loop goes on. -/
  | running

namespace PriorityPacketQueue

variable {queue : LeastQueue packetLess ℕ}

/-- `__init__`. -/
def init (queue : LeastQueue packetLess ℕ) : PriorityPacketQueue queue := ⟨queue.new, 0⟩

variable (s : PriorityPacketQueue queue)

/-- `qsize`. -/
def qsize : ℕ := (queue.items s.packets).length

/-- `empty`. -/
def empty : Bool := queue.empty s.packets

/-- `put`. -/
def put (packet : TransportPacket) : Except PyError Unit × PriorityPacketQueue queue :=
  match queue.putNowait s.packets (packet.header.priority, s.sequence, packet) with
  | .ok packets => (.ok (), ⟨packets, s.sequence + 1⟩)
  | .error exc => (.error exc, { s with sequence := s.sequence + 1 })

/-- `get`, where the queue is not empty. -/
def get : Except PyError TransportPacket × PriorityPacketQueue queue :=
  match queue.getNowait s.packets with
  | .ok ((_, _, packet), packets) => (.ok packet, { s with packets := packets })
  | .error exc => (.error exc, s)

/-- The loop of `drain`, for a number of rounds. -/
def drainLoop : ℕ → PriorityPacketQueue queue → List TransportPacket →
    QueueOutcome × PriorityPacketQueue queue
  | 0, s, _ => (.running, s)
  | rounds + 1, s, items =>
    if s.empty then (.drained items, s)
    else
      match s.get with
      | (.ok packet, s') => drainLoop rounds s' (items ++ [packet])
      | (.error exc, s') => (.raised exc, s')

/-- One operation. -/
def step : QueueOp → QueueOutcome × PriorityPacketQueue queue
  | .put packet =>
    match s.put packet with
    | (.ok (), s') => (.done, s')
    | (.error exc, s') => (.raised exc, s')
  | .get =>
    if s.empty then (.waits, s)
    else
      match s.get with
      | (.ok packet, s') => (.returned packet, s')
      | (.error exc, s') => (.raised exc, s')
  -- a round for each packet, and one to find the queue empty
  | .drain => drainLoop (s.qsize + 1) s []

/-- The outcomes of operations, and the queue after them. -/
def run : PriorityPacketQueue queue → List QueueOp → List QueueOutcome × PriorityPacketQueue queue
  | s, [] => ([], s)
  | s, op :: ops => ((s.step op).1 :: ((s.step op).2.run ops).1, ((s.step op).2.run ops).2)

end PriorityPacketQueue

/-! ### What a packet queue answers -/

/-- The stable sort of packets by their priority. -/
def sortedByPriority (packets : List TransportPacket) : List TransportPacket :=
  packets.insertionSort fun p q => p.header.priority ≤ q.header.priority

/-- Operations on a queue that holds packets in this order of arrival, their outcomes, and the
packets that are held after them. -/
inductive Serves : List TransportPacket → List QueueOp → List QueueOutcome →
    List TransportPacket → Prop
  | nil (pending : List TransportPacket) : Serves pending [] [] pending
  | put {pending : List TransportPacket} (packet : TransportPacket) {ops outcomes left}
      (h : Serves (pending ++ [packet]) ops outcomes left) :
      Serves pending (.put packet :: ops) (.done :: outcomes) left
  | waits {ops outcomes left} (h : Serves [] ops outcomes left) :
      Serves [] (.get :: ops) (.waits :: outcomes) left
  /-- The first of the packets of the least priority. -/
  | returned {before after : List TransportPacket} {packet : TransportPacket} {ops outcomes left}
      (hbefore : ∀ p ∈ before, packet.header.priority < p.header.priority)
      (hafter : ∀ p ∈ after, packet.header.priority ≤ p.header.priority)
      (h : Serves (before ++ after) ops outcomes left) :
      Serves (before ++ packet :: after) (.get :: ops) (.returned packet :: outcomes) left
  | drained {pending : List TransportPacket} {ops outcomes left} (h : Serves [] ops outcomes left) :
      Serves pending (.drain :: ops) (.drained (sortedByPriority pending) :: outcomes) left

/-- The packets that are put. -/
def packetsPut (ops : List QueueOp) : List TransportPacket :=
  ops.filterMap fun
    | .put packet => some packet
    | _ => none

/-- The packets that are returned. -/
def packetsReturned (outcomes : List QueueOutcome) : List TransportPacket :=
  outcomes.flatMap fun
    | .returned packet => [packet]
    | .drained packets => packets
    | _ => []

/-- Nothing is lost, and nothing is returned twice. -/
lemma Serves.perm {pending left : List TransportPacket} {ops : List QueueOp}
    {outcomes : List QueueOutcome} (h : Serves pending ops outcomes left) :
    (pending ++ packetsPut ops).Perm (packetsReturned outcomes ++ left) := by
  induction h with
  | nil pending => simp [packetsPut, packetsReturned]
  | put packet _ ih => simpa [packetsPut, packetsReturned] using ih
  | waits _ ih => simpa [packetsPut, packetsReturned] using ih
  | @returned before after packet ops outcomes left _ _ _ ih =>
    have hfront : (before ++ packet :: after).Perm (packet :: (before ++ after)) :=
      List.perm_middle
    exact (hfront.append_right _).trans (ih.cons packet)
  | @drained pending ops outcomes left _ ih =>
    have hsorted : pending.Perm (sortedByPriority pending) :=
      (List.perm_insertionSort _ pending).symm
    have hrest : (packetsPut ops).Perm (packetsReturned outcomes ++ left) := ih
    simpa [packetsPut, packetsReturned] using hsorted.append hrest

/-! ### The invariant -/

namespace PriorityPacketQueue

variable {queue : LeastQueue packetLess ℕ} {s : PriorityPacketQueue queue}
  {pending : List TransportPacket}

/-- The queue holds these packets, in this order of arrival, each under its own priority. -/
def Holds (s : PriorityPacketQueue queue) (pending : List TransportPacket) : Prop :=
  ∃ arrivals, Arrivals queue s.packets s.sequence arrivals ∧
    arrivals.map (fun e => e.2.2) = pending ∧ ∀ e ∈ arrivals, e.1 = e.2.2.header.priority

namespace Holds

lemma init (queue : LeastQueue packetLess ℕ) : (init queue).Holds [] :=
  ⟨[], Arrivals.new queue 0, rfl, by simp⟩

lemma held (h : s.Holds pending) : ((queue.items s.packets).map fun e => e.2.2).Perm pending := by
  obtain ⟨arrivals, hq, rfl, -⟩ := h
  exact hq.held.map _

lemma comparable (h : s.Holds pending) : Comparable (queue.items s.packets) := by
  obtain ⟨arrivals, hq, -⟩ := h
  exact hq.comparable

lemma qsize (h : s.Holds pending) : s.qsize = pending.length := by
  have hlen := h.held.length_eq
  rwa [List.length_map] at hlen

lemma empty_iff (h : s.Holds pending) : s.empty = true ↔ pending = [] := by
  rw [PriorityPacketQueue.empty, queue.empty_iff, ← List.length_eq_zero_iff,
    ← List.length_eq_zero_iff, ← h.qsize, PriorityPacketQueue.qsize]

lemma put (h : s.Holds pending) (packet : TransportPacket) :
    ∃ s', s.put packet = (.ok (), s') ∧ s'.Holds (pending ++ [packet]) := by
  obtain ⟨arrivals, hq, rfl, hpriority⟩ := h
  obtain ⟨packets, hput, hq⟩ := hq.put packet.header.priority packet
  refine ⟨⟨packets, s.sequence + 1⟩, ?_, _, hq, by simp, ?_⟩
  · rw [PriorityPacketQueue.put, hput]
  · intro e he
    rcases List.mem_append.1 he with he | he
    · exact hpriority e he
    · obtain rfl := List.mem_singleton.1 he
      rfl

lemma get (h : s.Holds pending) (hne : pending ≠ []) :
    ∃ before packet after s', pending = before ++ packet :: after ∧
      s.get = (.ok packet, s') ∧
      (∀ p ∈ before, packet.header.priority < p.header.priority) ∧
      (∀ p ∈ after, packet.header.priority ≤ p.header.priority) ∧
      s'.Holds (before ++ after) := by
  obtain ⟨arrivals, hq, rfl, hpriority⟩ := h
  obtain ⟨before, e, after, packets, rfl, hget, hbefore, hafter, hq⟩ :=
    hq.get fun hnil => hne (by rw [hnil, List.map_nil])
  rw [List.forall_mem_append, List.forall_mem_cons] at hpriority
  obtain ⟨hfirst, he, hlast⟩ := hpriority
  refine ⟨before.map fun e => e.2.2, e.2.2, after.map fun e => e.2.2, { s with packets := packets },
    by simp, ?_, ?_, ?_, before ++ after, hq, by simp, ?_⟩
  · rw [PriorityPacketQueue.get, hget]
  · intro p hp
    obtain ⟨e', he', rfl⟩ := List.mem_map.1 hp
    rw [← he, ← hfirst e' he']
    exact hbefore e' he'
  · intro p hp
    obtain ⟨e', he', rfl⟩ := List.mem_map.1 hp
    rw [← he, ← hlast e' he']
    exact hafter e' he'
  · exact List.forall_mem_append.2 ⟨hfirst, hlast⟩

/-- A round of `drain` moves the first packet of the stable sort to the packets that are
returned. -/
lemma drainLoop {rounds : ℕ} (h : s.Holds pending) (hrounds : pending.length < rounds)
    (items : List TransportPacket) :
    ∃ s', drainLoop rounds s items = (.drained (items ++ sortedByPriority pending), s') ∧
      s'.Holds [] := by
  induction rounds generalizing s pending items with
  | zero => exact absurd hrounds (Nat.not_lt_zero _)
  | succ rounds ih =>
    rw [PriorityPacketQueue.drainLoop]
    by_cases hempty : s.empty = true
    · obtain rfl := h.empty_iff.1 hempty
      exact ⟨s, by rw [if_pos hempty]; simp [sortedByPriority], h⟩
    · obtain ⟨before, packet, after, s', rfl, hget, hbefore, hafter, hs'⟩ :=
        h.get (mt h.empty_iff.2 hempty)
      have hfewer : (before ++ after).length < rounds := by
        simp only [List.length_append, List.length_cons] at hrounds ⊢
        omega
      obtain ⟨s'', hloop, hs''⟩ := ih hs' hfewer (items ++ [packet])
      have hsorted : sortedByPriority (before ++ packet :: after) =
          packet :: sortedByPriority (before ++ after) :=
        List.insertionSort_middle (fun p : TransportPacket => p.header.priority) hbefore hafter
      refine ⟨s'', ?_, hs''⟩
      rw [if_neg hempty, hget, hsorted, List.append_cons]
      exact hloop

/-- Operations are answered as a packet queue should answer them. -/
lemma run (h : s.Holds pending) (ops : List QueueOp) :
    ∃ left, Serves pending ops (s.run ops).1 left ∧ (s.run ops).2.Holds left := by
  induction ops generalizing s pending with
  | nil => exact ⟨pending, .nil pending, h⟩
  | cons op ops ih =>
    rw [PriorityPacketQueue.run]
    cases op with
    | put packet =>
      obtain ⟨s', hput, hs'⟩ := h.put packet
      obtain ⟨left, hserves, hleft⟩ := ih hs'
      rw [step, hput]
      exact ⟨left, .put packet hserves, hleft⟩
    | get =>
      rw [step]
      by_cases hempty : s.empty = true
      · obtain rfl := h.empty_iff.1 hempty
        obtain ⟨left, hserves, hleft⟩ := ih h
        rw [if_pos hempty]
        exact ⟨left, .waits hserves, hleft⟩
      · obtain ⟨before, packet, after, s', rfl, hget, hbefore, hafter, hs'⟩ :=
          h.get (mt h.empty_iff.2 hempty)
        obtain ⟨left, hserves, hleft⟩ := ih hs'
        rw [if_neg hempty, hget]
        exact ⟨left, .returned hbefore hafter hserves, hleft⟩
    | drain =>
      obtain ⟨s', hdrain, hs'⟩ := h.drainLoop (Nat.lt_succ_of_le h.qsize.ge) []
      obtain ⟨left, hserves, hleft⟩ := ih hs'
      rw [step, hdrain]
      exact ⟨left, .drained hserves, hleft⟩

end Holds

/-- Whatever the order of the operations, each is answered as a packet queue should answer it, no
packet is lost or returned twice, and no two packets are ever compared. -/
theorem priority_order (queue : LeastQueue packetLess ℕ) (ops : List QueueOp) :
    ∃ left, Serves [] ops ((init queue).run ops).1 left ∧
      (packetsPut ops).Perm (packetsReturned ((init queue).run ops).1 ++ left) ∧
      ((queue.items ((init queue).run ops).2.packets).map fun e => e.2.2).Perm left ∧
      Comparable (queue.items ((init queue).run ops).2.packets) := by
  obtain ⟨left, hserves, hleft⟩ := (Holds.init queue).run ops
  exact ⟨left, hserves, hserves.perm, hleft.held, hleft.comparable⟩

/-- A queue in which the comparison of two packets raises. -/
example (exc : PyError) :
    let packet (id : String) (priority : ℕ) : TransportPacket :=
      { clientPacket "acme" "score" none with
        header := { (clientPacket "acme" "score" none).header with
          packetId := id, priority := priority } }
    let queue := listQueue (fun _ _ => .error exc) exc
    ((init queue).run [.put (packet "a" 2), .put (packet "b" 1), .get, .put (packet "c" 2),
        .put (packet "d" 1), .drain, .get]).1 =
      [.done, .done, .returned (packet "b" 1), .done, .done,
        .drained [packet "d" 1, packet "a" 2, packet "c" 2], .waits] :=
  rfl

end PriorityPacketQueue

end ConstellationGate
