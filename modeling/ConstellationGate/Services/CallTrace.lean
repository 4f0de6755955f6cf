import ConstellationGate.Orchestration.StepTimeouts
import ConstellationGate.Services.CacheLog

/-!
# What execute calls record

Every interleaved run of execute calls leaves a verified transcript (`calls_verified`): each
event of a call is justified by what the call has recorded before (`CallJustified`), and a
lookup answers what the whole log says.  The properties of the execute service over all runs
are read off such transcripts.

A call records that it was admitted and what its lookup found.  On a miss it starts its
deadline and works (`Running`); when its execution has a result (`Finished`) it may store
it; and it returns in one of the ways of `Closing`.
-/

namespace ConstellationGate

variable {Dump : Type}

/-! ### The rule for retries -/

section Retry

variable {D : Discipline (gate Dump)} {tid : ℕ} {A : List (GateEvent Dump) → Prop}
  {st : Start (gate Dump)} {w : World (gate Dump)}

lemma wp_readMonotonic_at (hD : ∀ s s', Undisturbed s s' → D.Env s s') (h : D.At tid A st w)
    {post : Except PyError ℚ → Start (gate Dump) → World (gate Dump) → Prop}
    (hpost : ∀ now w', D.At tid A st w' → post (.ok now) st w') :
    (Co.call (S := gate Dump) readMonotonic).wp D.protocol tid post st w :=
  hpost _ _ (h.put (hD _ _ ⟨rfl, MonotonicClock.later_tick _⟩))

lemma wp_deadlineExpired_at (hD : ∀ s s', Undisturbed s s' → D.Env s s') (h : D.At tid A st w)
    (deadline : Option Deadline)
    {post : Except PyError Bool → Start (gate Dump) → World (gate Dump) → Prop}
    (hpost : ∀ expired w', D.At tid A st w' → post (.ok expired) st w') :
    (RetryPolicy.deadlineExpired deadline : Co (gate Dump) Bool).wp D.protocol tid post st w := by
  cases deadline with
  | none => exact hpost _ _ h
  | some d =>
    rw [RetryPolicy.deadlineExpired, Co.wp_bind]
    exact wp_readMonotonic_at hD h fun now w' h' => hpost _ _ h'

lemma wp_sleepOutlives_at (hD : ∀ s s', Undisturbed s s' → D.Env s s') (h : D.At tid A st w)
    (delaySeconds : ℚ) (deadline : Option Deadline)
    {post : Except PyError Bool → Start (gate Dump) → World (gate Dump) → Prop}
    (hpost : ∀ outlives w', D.At tid A st w' → post (.ok outlives) st w') :
    (RetryPolicy.sleepOutlives delaySeconds deadline : Co (gate Dump) Bool).wp D.protocol tid
      post st w := by
  cases deadline with
  | none => exact hpost _ _ h
  | some d =>
    rw [RetryPolicy.sleepOutlives, Co.wp_bind]
    exact wp_readMonotonic_at hD h fun now w' h' => hpost _ _ h'

lemma wp_sleep_at (h : D.At tid A st w) (delaySeconds : ℚ)
    {post : Except PyError Unit → Start (gate Dump) → World (gate Dump) → Prop}
    (hpost : ∀ r st' w', D.At tid A st' w' → post r st' w') :
    (RetryPolicy.sleep delaySeconds : Co (gate Dump) Unit).wp D.protocol tid post st w := by
  rw [RetryPolicy.sleep]
  split
  · exact Discipline.wp_request h fun r st' w' h' => hpost _ _ _ h'
  · exact hpost _ _ _ h

/-- The rule for retries: an execution that keeps a point when it fails is attempted from that
point again. -/
lemma wp_attempts (hD : ∀ s s', Undisturbed s s' → D.Env s s') {α : Type}
    {B : α → List (GateEvent Dump) → Prop} {func : Co (gate Dump) α}
    (hfunc : ∀ st w (post : Except PyError α → Start (gate Dump) → World (gate Dump) → Prop),
      D.At tid A st w → (∀ r st' w', D.At tid (B r) st' w' → post (.ok r) st' w') →
      (∀ e st' w', D.At tid A st' w' → post (.error e) st' w') →
      func.wp D.protocol tid post st w)
    (policy : RetryPolicy) (deadline : Option Deadline) (left attempt : ℕ)
    (lastExc : Option PyError) (h : D.At tid A st w)
    {post : Except PyError α → Start (gate Dump) → World (gate Dump) → Prop}
    (hok : ∀ r st' w', D.At tid (B r) st' w' → post (.ok r) st' w')
    (herr : ∀ e st' w', D.At tid A st' w' → post (.error e) st' w') :
    (policy.attempts func deadline left attempt lastExc).wp D.protocol tid post st w := by
  induction left generalizing attempt lastExc st w with
  | zero => exact herr _ _ _ h
  | succ left ih =>
    rw [RetryPolicy.attempts, Co.wp_handle]
    refine hfunc _ _ _ h hok fun exc st w h => ?_
    simp only
    rw [Co.wp_bind, wp_liftExcept]
    split
    swap
    · exact herr _ _ _ h
    rename_i decision _
    split
    · exact herr _ _ _ h
    -- the attempt is repeated, unless the deadline ends before the delay or during it
    rw [Co.wp_bind]
    refine wp_sleepOutlives_at hD h decision.delaySeconds deadline fun outlives w h => ?_
    cases outlives with
    | true => exact herr _ _ _ h
    | false =>
      simp only [Bool.false_eq_true, if_false]
      rw [Co.wp_bind]
      refine wp_sleep_at h decision.delaySeconds fun slept st w h => ?_
      cases slept with
      | error e => exact herr _ _ _ h
      | ok u =>
        simp only
        rw [Co.wp_bind]
        refine wp_deadlineExpired_at hD h deadline fun expired w h => ?_
        cases expired with
        | true => exact herr _ _ _ h
        | false => exact ih _ _ h

end Retry

/-! ### The states of a call -/

/-- The events of an execution. -/
def GateEvent.isWork : GateEvent Dump → Bool
  | .attempted _ | .stepStarted _ _ | .stepAnswered _ _ | .derived _ _ _ | .handed _ _ _ => true
  | _ => false

/-- What a call has recorded while it executes its packet. -/
def Running (packet : TransportPacket) (deadline : Deadline) (events : List (GateEvent Dump)) :
    Prop :=
  ∃ now work, events = .admitted packet :: .lookedUp packet now none ::
      .deadlineStarted packet deadline :: work ∧
    ∀ e ∈ work, e.isWork = true

/-- What a call has recorded when its execution has a result; a direct dispatch records its
answer. -/
def Finished (packet : TransportPacket) (deadline : Deadline) (result : TransportPacket)
    (events : List (GateEvent Dump)) : Prop :=
  Running packet deadline events ∨
    ∃ before, Running packet deadline before ∧ events = before ++ [.answered result]

/-- The ways in which a call ends, with what it has recorded. -/
inductive Closing (cfg : GateConfig Dump) :
    Except PyError TransportPacket → List (GateEvent Dump) → Prop
  /-- It was not admitted. -/
  | refused (e : PyError) : Closing cfg (.error e) []
  /-- It was answered from the cache. -/
  | cached (packet : TransportPacket) (now : ℚ) (value : Dump) :
      Closing cfg (cfg.sdk.modelValidate value)
        [.admitted packet, .lookedUp packet now (some value)]
  /-- It was not executed. -/
  | rejected (packet : TransportPacket) (now : ℚ) (e : PyError) :
      Closing cfg (.error e) [.admitted packet, .lookedUp packet now none]
  /-- Its execution failed. -/
  | failed {packet : TransportPacket} {deadline : Deadline} {events : List (GateEvent Dump)}
      (e : PyError) (h : Running packet deadline events) : Closing cfg (.error e) events
  /-- Its execution succeeded, and nothing was stored. -/
  | finished {packet : TransportPacket} {deadline : Deadline} {result : TransportPacket}
      {events : List (GateEvent Dump)} (h : Finished packet deadline result events) :
      Closing cfg (.ok result) events
  /-- Its result was stored. -/
  | stored {packet : TransportPacket} {deadline : Deadline} {result : TransportPacket}
      {events : List (GateEvent Dump)} (key : String) (now : ℚ)
      (h : Finished packet deadline result events) :
      Closing cfg (.ok result) (events ++ [.stored key now (cfg.sdk.dump result)])

/-- When a call may record an event. -/
def CallJustified (cfg : GateConfig Dump) (ttl : ℚ) (log : List (ℕ × GateEvent Dump)) (tid : ℕ) :
    GateEvent Dump → Prop
  | .admitted _ => eventsIn tid log = []
  | .lookedUp packet now found =>
    eventsIn tid log = [.admitted packet] ∧ found = expectedHit ttl log packet now
  | .deadlineStarted packet deadline =>
    (∃ now, eventsIn tid log = [.admitted packet, .lookedUp packet now none]) ∧
      deadline.totalSeconds = cfg.timeoutPolicy.budgetMs packet / 1000
  | .derived budget target p =>
    ∃ packet deadline, Running packet deadline (eventsIn tid log) ∧
      Attempt (some deadline) budget target p
  | .handed budget target p =>
    ∃ packet deadline, Running packet deadline (eventsIn tid log) ∧
      Attempt (some deadline) budget target p
  | .attempted _ => ∃ packet deadline, Running packet deadline (eventsIn tid log)
  | .stepStarted _ _ => ∃ packet deadline, Running packet deadline (eventsIn tid log)
  | .stepAnswered _ _ => ∃ packet deadline, Running packet deadline (eventsIn tid log)
  | .answered _ => ∃ packet deadline, Running packet deadline (eventsIn tid log)
  | .stored key _ value =>
    ∃ packet deadline result, Finished packet deadline result (eventsIn tid log) ∧
      idempotencyNamespaceKey packet = some key ∧ isTerminalSuccess result = true ∧
      value = cfg.sdk.dump result
  | .returned outcome => Closing cfg outcome (eventsIn tid log)

/-- The discipline of execute calls: the store holds what the log says, the clock is not
turned back, and only execute calls touch the store. -/
def callDiscipline (cfg : GateConfig Dump) (ttl : ℚ) : Discipline (gate Dump) where
  Justified := CallJustified cfg ttl
  Kept := CacheKept ttl
  Later s s' := s.monotonic.Later s'.monotonic
  Env := Undisturbed
  later_refl s := MonotonicClock.Later.refl s.monotonic
  later_trans := MonotonicClock.Later.trans
  later_of_env h := h.later
  kept_of_env h henv := h.put henv

lemma Running.concat {packet : TransportPacket} {deadline : Deadline}
    {events : List (GateEvent Dump)} (h : Running packet deadline events) {e : GateEvent Dump}
    (he : e.isWork = true) : Running packet deadline (events ++ [e]) := by
  obtain ⟨now, work, rfl, hwork⟩ := h
  refine ⟨now, work ++ [e], by simp, fun e' he' => ?_⟩
  rcases List.mem_append.1 he' with he' | he'
  · exact hwork e' he'
  · rwa [List.mem_singleton.1 he']

lemma storedBy_of_isWork {e : GateEvent Dump} (he : e.isWork = true) (key : String) :
    storedBy key e = none := by
  cases e <;> first | rfl | cases he

/-! ### The rules for a call -/

section Call

variable {cfg : GateConfig Dump} {ttl : ℚ} {tid : ℕ} {st : Start (gate Dump)}
  {w : World (gate Dump)} {packet : TransportPacket} {deadline : Deadline}

/-- The execution records an event of its work. -/
lemma at_work {e : GateEvent Dump}
    (h : (callDiscipline cfg ttl).At tid (Running packet deadline) st w)
    (he : e.isWork = true) (hj : CallJustified cfg ttl w.log tid e) :
    (callDiscipline cfg ttl).At tid (Running packet deadline) st (w.emit tid e) :=
  h.emit hj (h.kept.emit tid (storedBy_of_isWork he)) (h.events.concat he)

lemma wp_dispatch_call (p : TransportPacket)
    (h : (callDiscipline cfg ttl).At tid (Running packet deadline) st w)
    {post : Except PyError TransportPacket → Start (gate Dump) → World (gate Dump) → Prop}
    (hpost : ∀ r st' w', (callDiscipline cfg ttl).At tid (Running packet deadline) st' w' →
      post r st' w') :
    (dispatch cfg p (some deadline)).wp (callDiscipline cfg ttl).protocol tid post st w := by
  refine wp_dispatch (fun _ _ hs => hs) cfg p (some deadline) ?_ ?_ h hpost
  · exact fun st w _ _ _ hattempt h => at_work h rfl ⟨packet, deadline, h.events, hattempt⟩
  · exact fun st w _ _ _ hattempt h => at_work h rfl ⟨packet, deadline, h.events, hattempt⟩

/-- One attempt: it ends with a result, or the call is still running. -/
lemma wp_runOnce (h : (callDiscipline cfg ttl).At tid (Running packet deadline) st w)
    {post : Except PyError TransportPacket → Start (gate Dump) → World (gate Dump) → Prop}
    (hok : ∀ r st' w', (callDiscipline cfg ttl).At tid (Finished packet deadline r) st' w' →
      post (.ok r) st' w')
    (herr : ∀ e st' w', (callDiscipline cfg ttl).At tid (Running packet deadline) st' w' →
      post (.error e) st' w') :
    (runOnce cfg (dispatch cfg) packet deadline).wp (callDiscipline cfg ttl).protocol tid post
      st w := by
  rw [runOnce, Co.wp_bind, Co.wp_log]
  simp only
  have hattempted := at_work (e := .attempted packet) h rfl ⟨packet, deadline, h.events⟩
  split
  · -- a workflow
    refine wp_executeWorkflow (fun _ _ hs => hs) cfg packet (some deadline) ?_ ?_ ?_ hattempted
      fun r st' w' h' => ?_
    · exact fun p st w post h hpost => wp_dispatch_call p h hpost
    · exact fun st w step p h => at_work h rfl ⟨packet, deadline, h.events⟩
    · exact fun st w step p h => at_work h rfl ⟨packet, deadline, h.events⟩
    · cases r with
      | error e => exact herr _ _ _ h'
      | ok r => exact hok _ _ _ (h'.mono fun _ hrun => .inl hrun)
  · -- a direct dispatch, whose answer is recorded
    rw [Co.wp_bind]
    refine wp_dispatch_call packet hattempted fun r st' w' h' => ?_
    cases r with
    | error e => exact herr _ _ _ h'
    | ok answer =>
      simp only
      rw [Co.wp_bind, Co.wp_log]
      refine hok answer _ _
        (h'.emit ⟨packet, deadline, h'.events⟩ (h'.kept.emit tid fun _ => rfl) ?_)
      exact .inr ⟨_, h'.events, rfl⟩

/-- What follows the execution ends the call. -/
lemma wp_settle {outcome : Except PyError TransportPacket}
    (herr : ∀ e, outcome = .error e →
      (callDiscipline cfg ttl).At tid (Running packet deadline) st w)
    (hok : ∀ r, outcome = .ok r →
      (callDiscipline cfg ttl).At tid (Finished packet deadline r) st w)
    {post : Except PyError TransportPacket → Start (gate Dump) → World (gate Dump) → Prop}
    (hpost : ∀ r st' w', (callDiscipline cfg ttl).At tid (Closing cfg r) st' w' → post r st' w') :
    (settle cfg packet outcome).wp (callDiscipline cfg ttl).protocol tid post st w := by
  cases outcome with
  | error exc =>
    have h := herr exc rfl
    have hfailed : ∀ w, (callDiscipline cfg ttl).At tid (Running packet deadline) st w →
        post (.error exc) st w :=
      fun w h => hpost _ _ _ (h.mono fun _ hrun => .failed exc hrun)
    simp only [settle]
    split
    · rw [Co.wp_bind, Co.wp_call]
      exact hfailed _ (h.put ⟨rfl, MonotonicClock.later_tick _⟩)
    · exact hfailed _ h
  | ok result =>
    have h := hok result rfl
    rw [settle, Co.wp_bind, Co.wp_call]
    have hrecorded : (callDiscipline cfg ttl).At tid (Finished packet deadline result) st
        (w.put (recordSuccess w.state).2) := h.put ⟨rfl, MonotonicClock.Later.refl _⟩
    simp only [recordSuccess] at hrecorded ⊢
    split
    swap
    · -- an answer that is no success is returned, and not stored
      exact hpost _ _ _ (hrecorded.mono fun _ hfin => .finished hfin)
    rename_i hsuccess
    rw [Co.wp_bind, Co.wp_call]
    rcases hkey : idempotencyNamespaceKey packet with _ | key
    · rw [CacheKept.cacheResult_none cfg hkey]
      exact hpost _ _ _ (hrecorded.mono fun _ hfin => .finished hfin)
    · -- the result is stored and recorded in one go
      obtain ⟨hvalue, hkept⟩ := hrecorded.kept.cacheResult cfg hkey result tid
      have hlater := later_cacheResult cfg packet result
        (w.put { w.state with circuitBreaker := w.state.circuitBreaker.recordSuccess }).state
      rw [hvalue]
      simp only
      rw [Co.wp_bind, Co.wp_log]
      refine hpost _ _ _ ⟨hrecorded.verified.concat ?_, hkept, ?_, ?_⟩
      · exact ⟨packet, deadline, result, hrecorded.events, hkey, hsuccess, rfl⟩
      · exact MonotonicClock.Later.trans hrecorded.later hlater
      · rw [World.eventsOf_emit]
        exact .stored key _ hrecorded.events

/-- A lookup answers what the log says. -/
lemma at_lookUp (h : (callDiscipline cfg ttl).At tid (· = [.admitted packet]) st w) :
    (callDiscipline cfg ttl).At tid
      (· = [.admitted packet, .lookedUp packet w.state.monotonic.now
        (expectedHit ttl w.log packet w.state.monotonic.now)]) st
      ((w.put (lookUp packet w.state).2).emit tid (.lookedUp packet w.state.monotonic.now
        (expectedHit ttl w.log packet w.state.monotonic.now))) := by
  obtain ⟨-, hkept, hlater⟩ := h.kept.lookUp packet
  refine ⟨h.verified.concat ⟨h.events, rfl⟩, hkept.emit tid fun _ => rfl,
    MonotonicClock.Later.trans h.later hlater, ?_⟩
  rw [World.eventsOf_emit, World.eventsOf_put, h.events]
  rfl

/-- The execution under its deadline, with what follows it, ends the call. -/
lemma wp_run (h : (callDiscipline cfg ttl).At tid (Running packet deadline) st w)
    (policy : RetryPolicy)
    {post : Except PyError TransportPacket → Start (gate Dump) → World (gate Dump) → Prop}
    (hpost : ∀ r st' w', (callDiscipline cfg ttl).At tid (Closing cfg r) st' w' → post r st' w') :
    ((waitFor (policy.run (runOnce cfg (dispatch cfg) packet deadline)
      (some deadline))).handle (settle cfg packet)).wp
        (callDiscipline cfg ttl).protocol tid post st w := by
  rw [Co.wp_handle, waitFor, Co.wp_handle, RetryPolicy.run]
  refine wp_attempts (B := fun r => Finished packet deadline r) (fun _ _ hs => hs)
    (fun st w post h hok herr => wp_runOnce h hok herr) _ _ _ _ _ h ?_ ?_
  · intro result st' w' h'
    have hrunning : ∀ e : PyError, (.ok result : Except PyError TransportPacket) = .error e →
        (callDiscipline cfg ttl).At tid (Running packet deadline) st' w' :=
      fun e he => by cases he
    refine wp_settle hrunning (fun r hr => ?_) hpost
    obtain rfl := Except.ok.inj hr
    exact h'
  · intro e st' w' h'
    simp only
    -- a deadline that ran out is raised as `TimeoutError`, any other error as it is
    split <;> exact wp_settle (fun _ _ => h') (fun r hr => by cases hr) hpost

/-- An admitted call ends in one of the ways of `Closing`. -/
lemma wp_serve (h : (callDiscipline cfg ttl).At tid (· = [.admitted packet]) st w)
    {post : Except PyError TransportPacket → Start (gate Dump) → World (gate Dump) → Prop}
    (hpost : ∀ r st' w', (callDiscipline cfg ttl).At tid (Closing cfg r) st' w' → post r st' w') :
    (serve cfg (dispatch cfg) packet).wp (callDiscipline cfg ttl).protocol tid post st w := by
  rw [serve, Co.wp_bind, Co.wp_call]
  rw [(h.kept.lookUp packet).1]
  simp only
  rw [Co.wp_bind, Co.wp_log]
  have hlooked := at_lookUp h
  generalize expectedHit ttl w.log packet w.state.monotonic.now = found at hlooked ⊢
  generalize (w.put (lookUp packet w.state).2).emit tid
    (.lookedUp packet w.state.monotonic.now found) = w₁ at hlooked ⊢
  cases found with
  | some value => exact hpost _ _ _ (hlooked.mono fun _ htr => htr ▸ .cached packet _ value)
  | none =>
    have hrejected : ∀ e w₁, (callDiscipline cfg ttl).At tid
        (· = [.admitted packet, .lookedUp packet w.state.monotonic.now none]) st w₁ →
        post (.error e) st w₁ :=
      fun e w₁ h => hpost _ _ _ (h.mono fun _ htr => htr ▸ .rejected packet _ e)
    simp only
    rw [Co.wp_bind, Co.wp_call]
    have hguarded := hlooked.put (s := (guardReplay packet w₁.state).2)
      ⟨rfl, MonotonicClock.Later.refl _⟩
    split
    swap
    · exact hrejected _ _ hguarded
    rw [Co.wp_bind, Co.wp_call]
    generalize w₁.put (guardReplay packet w₁.state).2 = w₂ at hguarded ⊢
    have hclocked := hguarded.put (s := (startDeadline cfg packet w₂.state).2)
      ⟨rfl, cfg.timeoutPolicy.later_startDeadline packet _⟩
    split
    swap
    · exact hrejected _ _ hclocked
    rename_i deadline hdeadline
    have htotal : deadline.totalSeconds = cfg.timeoutPolicy.budgetMs packet / 1000 :=
      cfg.timeoutPolicy.totalSeconds_of_startDeadline packet _ hdeadline
    rw [Co.wp_bind, Co.wp_log]
    have hstarted : (callDiscipline cfg ttl).At tid (Running packet deadline) st
        ((w₂.put (startDeadline cfg packet w₂.state).2).emit tid
          (.deadlineStarted packet deadline)) := by
      refine hclocked.emit ⟨⟨_, hclocked.events⟩, htotal⟩ (hclocked.kept.emit tid fun _ => rfl) ?_
      rw [hclocked.events]
      exact ⟨_, [], rfl, fun e he => by cases he⟩
    exact wp_run hstarted _ hpost

lemma undisturbed_passAdmission (cfg : GateConfig Dump) (packet : TransportPacket)
    (s : GateState Dump) : Undisturbed s (passAdmission cfg packet s).2 :=
  ⟨(passAdmission_admission cfg packet s).idempotencyStore,
    (passAdmission_admission cfg packet s).monotonic⟩

/-- An execute call ends in one of the ways of `Closing`. -/
lemma wp_executePacket (validated : Except PyError TransportPacket)
    (h : (callDiscipline cfg ttl).At tid (· = []) st w)
    {post : Except PyError TransportPacket → Start (gate Dump) → World (gate Dump) → Prop}
    (hpost : ∀ r st' w', (callDiscipline cfg ttl).At tid (Closing cfg r) st' w' → post r st' w') :
    (executePacket cfg (dispatch cfg) validated).wp (callDiscipline cfg ttl).protocol tid post
      st w := by
  have hrefused : ∀ e w, (callDiscipline cfg ttl).At tid (· = []) st w → post (.error e) st w :=
    fun e w h => hpost _ _ _ (h.mono fun _ htr => htr ▸ .refused e)
  rw [executePacket, Co.wp_bind, wp_liftExcept]
  cases validated with
  | error e => exact hrefused e w h
  | ok packet =>
    simp only
    rw [Co.wp_bind, Co.wp_call]
    have hput := h.put (undisturbed_passAdmission cfg packet w.state)
    split
    swap
    · exact hrefused _ _ hput
    rw [Co.wp_bind, Co.wp_log]
    simp only
    rw [Co.wp_handle]
    have hadmitted : (callDiscipline cfg ttl).At tid (· = [.admitted packet]) st
        ((w.put (passAdmission cfg packet w.state).2).emit tid (.admitted packet)) := by
      refine hput.emit hput.events (hput.kept.emit tid fun _ => rfl) ?_
      rw [hput.events]
      rfl
    refine wp_serve hadmitted fun r st' w' h' => ?_
    rw [Co.wp_bind, Co.wp_call]
    exact hpost r _ _ (h'.put ⟨rfl, MonotonicClock.Later.refl _⟩)

end Call

/-! ### Runs of execute calls -/

/-- Every execute call keeps the discipline. -/
theorem execute_correct (cfg : GateConfig Dump) (ttl : ℚ)
    (validated : Except PyError TransportPacket) :
    (execute cfg (dispatch cfg) validated).Correct (callDiscipline cfg ttl).protocol := by
  intro tid w hinv hfresh
  have hstart : (callDiscipline cfg ttl).At tid (· = []) ⟨w, none⟩ w := .start hinv hfresh
  rw [execute, Co.wp_handle]
  refine wp_executePacket validated hstart fun outcome st' w' h' => ?_
  rw [Co.wp_bind, Co.wp_log]
  have hreturned : (callDiscipline cfg ttl).At tid (fun _ => True) st'
      (w'.emit tid (.returned outcome)) :=
    h'.emit h'.events (h'.kept.emit tid fun _ => rfl) trivial
  exact hreturned.guar none

/-- The programs of the runs below: execute calls with the real dispatcher. -/
def IsExecute (cfg : GateConfig Dump) (p : Co (gate Dump) TransportPacket) : Prop :=
  ∃ validated, p = execute cfg (dispatch cfg) validated

/-- Runs of execute calls that start with an empty idempotency store. -/
structure CallRun (cfg : GateConfig Dump) (s : GateState Dump)
    (ms : List (Move (gate Dump) TransportPacket)) : Prop where
  empty : s.idempotencyStore.store = .empty
  legal : (Pool.init s).LegalRun (callDiscipline cfg s.idempotencyStore.ttl).protocol
    (IsExecute cfg) ms

/-- Every interleaved run of execute calls leaves a verified transcript, and a store that holds
what it says. -/
theorem calls_verified {cfg : GateConfig Dump} {s : GateState Dump}
    {ms : List (Move (gate Dump) TransportPacket)} (h : CallRun cfg s ms) :
    Verified (CallJustified cfg s.idempotencyStore.ttl) (runLog s ms) ∧
      CacheKept s.idempotencyStore.ttl ((Pool.init s).run ms).world := by
  have hprog : ∀ p, IsExecute cfg p →
      p.Correct (callDiscipline cfg s.idempotencyStore.ttl).protocol := by
    rintro p ⟨validated, rfl⟩
    exact execute_correct cfg _ validated
  have hkept : CacheKept s.idempotencyStore.ttl (⟨s, []⟩ : World (gate Dump)) := by
    refine ⟨rfl, fun key => .inl ?_⟩
    rw [h.empty]
    rfl
  exact Discipline.run_verified hprog hkept h.legal

/-! ### A run with one call -/

/-- A request with the idempotency key `order-1`. -/
def order (packetId action : String) : TransportPacket :=
  let packet := clientPacket "acme" action (some "order-1")
  { packet with header := { packet.header with packetId := packetId } }

/-- The answer of a worker that has served a request. -/
def served : TransportPacket := clientPacket "acme" "score" none

/-- A call whose packet is served by a worker. -/
def servedOrder : List (Move (gate TransportPacket) TransportPacket) :=
  [.spawn (execute .plain (dispatch .plain) (.ok (order "first" "score"))),
   .resume 0 (answering served)]

lemma servedOrder_run : CallRun .plain scoringState servedOrder where
  empty := rfl
  legal := ⟨⟨_, rfl⟩, fun _ _ _ => trivial, trivial⟩

end ConstellationGate
