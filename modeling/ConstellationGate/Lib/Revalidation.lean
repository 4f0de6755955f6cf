import Mathlib.Data.List.Basic
import Mathlib.Tactic.Common

/-!
# Revalidation

A client keeps the last body that it got at each location, with its tag, and sends the tag when it
asks again.  When the server finds the tag to be that of what it would send, it says only that
nothing has changed (`ConditionalAnswer.notModified`), and the client shows what it keeps.

The client shows what is current (`Revalidation.shown_eq`) when no two bodies of one location have
the same tag: what it keeps has been current before, so its tag is that of nothing else.
-/

/-- The answer to a request that may carry a tag. -/
inductive ConditionalAnswer (Tag Body Error : Type*)
  | notModified (tag : Tag)
  | full (tag : Tag) (body : Body)
  | failed (error : Error)
deriving DecidableEq

namespace Revalidation

variable {Request Location Tag Body Error : Type*}

/-- What a client shows of an answer; a body that it does not hold it cannot show. -/
def shows (held : Option (Tag × Body)) :
    ConditionalAnswer Tag Body Error → Option (Except Error Body)
  | .notModified _ => held.map fun kept => .ok kept.2
  | .full _ body => some (.ok body)
  | .failed error => some (.error error)

/-- What a client holds after an answer. -/
def keeps (held : Option (Tag × Body)) : ConditionalAnswer Tag Body Error → Option (Tag × Body)
  | .full tag body => some (tag, body)
  | _ => held

/-- A server, the location of a request, what is current at a request, and the tag of a body. -/
structure Setting (Request Location Tag Body Error : Type*) where
  serve : Request → Option Tag → ConditionalAnswer Tag Body Error
  location : Request → Location
  current : Request → Except Error Body
  tag : Body → Tag

namespace Setting

variable (s : Setting Request Location Tag Body Error)

/-- The tag is that of a body which is current at some request. -/
def Known (sent : Option Tag) : Prop :=
  ∀ tag ∈ sent, ∃ request body, s.current request = .ok body ∧ tag = s.tag body

/-- A request that carries no tag, or a known one, is answered with what is current, unless the tag
is that of it. -/
structure Serves : Prop where
  failed : ∀ request sent error, s.current request = .error error →
    s.serve request sent = .failed error
  answered : ∀ request sent body, s.current request = .ok body → s.Known sent →
    s.serve request sent = .full (s.tag body) body ∨
      sent = some (s.tag body) ∧ ∃ tag, s.serve request sent = .notModified tag

/-- What a client holds at each location. -/
abbrev Held (_ : Setting Request Location Tag Body Error) : Type _ :=
  Location → Option (Tag × Body)

/-- What is held at a location has been current at a request for it. -/
def Fetched (past : List Request) (held : s.Held) : Prop :=
  ∀ location tag body, held location = some (tag, body) →
    tag = s.tag body ∧
      ∃ request ∈ past, s.location request = location ∧ s.current request = .ok body

/-- No two current bodies of one location have the same tag. -/
def Distinguished (history : List Request) : Prop :=
  ∀ request ∈ history, ∀ request' ∈ history, s.location request = s.location request' →
    ∀ body body', s.current request = .ok body → s.current request' = .ok body' →
      s.tag body = s.tag body' → body = body'

/-- The answer to a request of a client that sends the tag of what it holds. -/
def asked (held : s.Held) (request : Request) : ConditionalAnswer Tag Body Error :=
  s.serve request ((held (s.location request)).map Prod.fst)

variable {s} {past : List Request} {held : s.Held} {request : Request}

/-- A client sends known tags only. -/
lemma Fetched.known (h : s.Fetched past held) (location : Location) :
    s.Known ((held location).map Prod.fst) := by
  intro tag htag
  obtain ⟨⟨kept, body⟩, hheld, rfl⟩ := Option.map_eq_some_iff.1 htag
  obtain ⟨htagged, earlier, -, -, hcurrent⟩ := h location kept body hheld
  exact ⟨earlier, body, hcurrent, htagged⟩

/-- The client shows what is current: one request. -/
lemma Fetched.shows_eq (h : s.Fetched past held) (hserves : s.Serves) (hmem : request ∈ past)
    (hdistinguished : s.Distinguished past) :
    shows (held (s.location request)) (s.asked held request) = some (s.current request) := by
  rcases hcurrent : s.current request with error | body
  · rw [asked, hserves.failed _ _ _ hcurrent]
    rfl
  · rcases hserves.answered _ _ _ hcurrent (h.known (s.location request)) with
      hfull | ⟨hsent, tag, hsame⟩
    · rw [asked, hfull]
      rfl
    · obtain ⟨⟨keptTag, kept⟩, hkept, htags⟩ := Option.map_eq_some_iff.1 hsent
      obtain ⟨htagged, earlier, hearlier, hlocation, hfetched⟩ := h _ _ _ hkept
      have hsameTag : s.tag kept = s.tag body := htagged.symm.trans htags
      obtain rfl : kept = body :=
        hdistinguished earlier hearlier request hmem hlocation _ _ hfetched hcurrent hsameTag
      rw [asked, hsame, hkept]
      rfl

/-! ### Histories -/

section Histories

variable [DecidableEq Location]

variable (s) in
/-- What the client holds after a request. -/
def after (held : s.Held) (request : Request) : s.Held :=
  fun location =>
    if location = s.location request then keeps (held location) (s.asked held request)
    else held location

variable (s) in
/-- What the client shows, one request after another. -/
def shown : s.Held → List Request → List (Option (Except Error Body))
  | _, [] => []
  | held, request :: history =>
    shows (held (s.location request)) (s.asked held request) ::
      shown (s.after held request) history

/-- After a request what is held has still been current. -/
lemma Fetched.after (h : s.Fetched past held) (hserves : s.Serves) (hmem : request ∈ past) :
    s.Fetched past (s.after held request) := by
  intro location tag body hheld
  rw [Setting.after] at hheld
  split at hheld
  next hlocation =>
    subst hlocation
    rcases hcurrent : s.current request with error | sentBody
    · rw [asked, hserves.failed _ _ _ hcurrent] at hheld
      exact h _ tag body hheld
    · rcases hserves.answered _ _ _ hcurrent (h.known (s.location request)) with
        hfull | ⟨-, same, hsame⟩
      · rw [asked, hfull] at hheld
        obtain ⟨rfl, rfl⟩ := Prod.mk.inj (Option.some.inj hheld)
        exact ⟨rfl, request, hmem, rfl, hcurrent⟩
      · rw [asked, hsame] at hheld
        exact h _ tag body hheld
  next => exact h location tag body hheld

/-- The client shows what is current, at each request of a history. -/
theorem shown_eq (hserves : s.Serves) {history : List Request} (hfetched : s.Fetched past held)
    (hsub : history ⊆ past) (hdistinguished : s.Distinguished past) :
    s.shown held history = history.map fun request => some (s.current request) := by
  induction history generalizing held with
  | nil => rfl
  | cons request history ih =>
    have hmem : request ∈ past := hsub List.mem_cons_self
    have hlater : history ⊆ past := fun _ h => hsub (List.mem_cons_of_mem _ h)
    rw [shown, List.map_cons, hfetched.shows_eq hserves hmem hdistinguished,
      ih (hfetched.after hserves hmem) hlater]

end Histories

end Setting

end Revalidation
