import ConstellationGate.Lib.History
import ConstellationGate.Services.ExecuteFootprint

/-!
# The history of an execute call

A call records events of its own, around the attempts to execute its packet.  A rule that lets these
pass, and that every attempt follows from a point which it keeps, is a rule of the whole call; and
what is known of the failures of the attempts is known of the failures of the call
(`follows_execute_of_attempts`).
-/

namespace ConstellationGate

variable {Dump : Type}

/-- A piece of work keeps a point of the history, and fails only as `F` allows. -/
def KeepsPoint {α : Type} (A : List (GateEvent Dump) → Prop)
    (F : List (GateEvent Dump) → PyError → Prop) (events : List (GateEvent Dump))
    (r : Except PyError α) : Prop :=
  A events ∧ ∀ e, r = .error e → F events e

/-- An exception of a call, with what the call has recorded by then. -/
inductive CallFails (cfg : GateConfig Dump) (packet : TransportPacket)
    (F : List (GateEvent Dump) → PyError → Prop) (events : List (GateEvent Dump)) (e : PyError) :
    Prop
  /-- The packet is not admitted. -/
  | refused (s : GateState Dump) (hnone : events = [])
      (hrefused : (passAdmission cfg packet s).1 = .error e)
  /-- The cached answer cannot be read. -/
  | unreadable (value : Dump) (hvalue : cfg.sdk.modelValidate value = .error e)
  /-- The packet is replayed. -/
  | replayed (s : GateState Dump) (hreplayed : (guardReplay packet s).1 = .error e)
  /-- There is no time for the packet. -/
  | timeless (s : GateState Dump) (hdeadline : (startDeadline cfg packet s).1 = .error e)
  /-- The work on the packet fails. -/
  | work (hfails : F events e)

/-- After an attempt there is a decision, or the backoff overflows. -/
lemma RetryPolicy.decisionFor_cases (policy : RetryPolicy) {attempt : ℕ} (h : 1 ≤ attempt)
    (exc : PyError) :
    (∃ decision, policy.decisionFor attempt exc = .ok decision) ∨
      policy.decisionFor attempt exc = .error powerOverflow := by
  rw [decisionFor, if_neg (by omega)]
  split
  · exact .inl ⟨_, rfl⟩
  rw [floatPow]
  split
  · exact .inl ⟨_, rfl⟩
  · exact .inr rfl

section Follows

variable {L : Replies (gate Dump)} {J : List (GateEvent Dump) → GateEvent Dump → Prop}
  {A : List (GateEvent Dump) → Prop} {F : List (GateEvent Dump) → PyError → Prop}

/-- The sleep before a retry records nothing, and fails as its await does. -/
lemma follows_sleep_bind {α : Type} {delaySeconds : ℚ} {f : Unit → Co (gate Dump) α}
    {P : List (GateEvent Dump) → Except PyError α → Prop} {events : List (GateEvent Dump)}
    {s : GateState Dump}
    (hsleep : ∀ r : Except PyError Unit, L (.retrySleep delaySeconds) r → ∀ e, r = .error e →
      P events (.error e))
    (hf : ∀ s, (f ()).Follows L J P events s) :
    (RetryPolicy.sleep delaySeconds >>= f).Follows L J P events s := by
  rw [RetryPolicy.sleep]
  split
  · intro r hr s
    cases r with
    | ok u => exact hf s
    | error e => exact hsleep _ hr e rfl
  · exact hf s

lemma follows_sleepOutlives_bind {α : Type} {delaySeconds : ℚ} {deadline : Option Deadline}
    {f : Bool → Co (gate Dump) α} {P : List (GateEvent Dump) → Except PyError α → Prop}
    {events : List (GateEvent Dump)} {s : GateState Dump}
    (hf : ∀ outlives s, (f outlives).Follows L J P events s) :
    (RetryPolicy.sleepOutlives delaySeconds deadline >>= f).Follows L J P events s := by
  cases deadline with
  | none => exact hf _ s
  | some d => exact hf _ _

lemma follows_deadlineExpired_bind {α : Type} {deadline : Option Deadline}
    {f : Bool → Co (gate Dump) α} {P : List (GateEvent Dump) → Except PyError α → Prop}
    {events : List (GateEvent Dump)} {s : GateState Dump}
    (hf : ∀ expired s, (f expired).Follows L J P events s) :
    (RetryPolicy.deadlineExpired deadline >>= f).Follows L J P events s := by
  cases deadline with
  | none => exact hf _ s
  | some d => exact hf _ _

/-- The retries keep the point that each attempt keeps, and fail as one of the attempts does, as
the sleep before it, or as a backoff that overflows. -/
lemma follows_attempts_of {α : Type} {policy : RetryPolicy} {func : Co (gate Dump) α}
    (hfunc : ∀ events s, A events → func.Follows L J (KeepsPoint A F) events s)
    (hsleep : ∀ events seconds (r : Except PyError Unit) e, A events → L (.retrySleep seconds) r →
      r = .error e → F events e)
    (hoverflow : ∀ events, A events → F events powerOverflow)
    (deadline : Option Deadline) (left attempt : ℕ) (lastExc : Option PyError)
    {events : List (GateEvent Dump)} (hattempt : 1 ≤ attempt)
    (hleft : 0 < left ∨ ∃ e, lastExc = some e ∧ F events e) (hA : A events) (s : GateState Dump) :
    (policy.attempts func deadline left attempt lastExc).Follows L J (KeepsPoint A F) events s := by
  induction left generalizing attempt lastExc events s with
  | zero =>
    obtain ⟨e, rfl, he⟩ := hleft.resolve_left (lt_irrefl 0)
    refine ⟨hA, ?_⟩
    rintro e' ⟨⟩
    exact he
  | succ left ih =>
    refine Co.follows_handle ((hfunc events s hA).mono fun h r hr s => ?_)
    cases r with
    | ok a => exact ⟨hr.1, fun e he => by cases he⟩
    | error exc =>
      have hfails : F h exc := hr.2 exc rfl
      have hexc : KeepsPoint A F h (.error exc : Except PyError α) := by
        refine ⟨hr.1, ?_⟩
        rintro e ⟨⟩
        exact hfails
      rcases policy.decisionFor_cases hattempt exc with ⟨decision, hdecision⟩ | hdecision
      swap
      · simp only [hdecision]
        refine ⟨hr.1, ?_⟩
        rintro e ⟨⟩
        exact hoverflow h hr.1
      simp only [hdecision]
      change Co.Follows L J _ (if _ then _ else _) h s
      split
      · exact hexc
      refine follows_sleepOutlives_bind fun outlives s => ?_
      split
      · exact hexc
      refine follows_sleep_bind (fun r hr' e he => ⟨hr.1, ?_⟩) fun s => ?_
      · rintro e' ⟨⟩
        exact hsleep h _ r e hr.1 hr' he
      refine follows_deadlineExpired_bind fun expired s => ?_
      split
      · exact hexc
      · exact ih _ _ (by omega) (.inr ⟨exc, rfl, hfails⟩) hr.1 s

/-- The cancellation by the timer of `wait_for` becomes a timeout. -/
lemma follows_waitFor_of {α : Type} {p : Co (gate Dump) α} {events : List (GateEvent Dump)}
    {s : GateState Dump} (hp : p.Follows L J (KeepsPoint A F) events s)
    (htimer : ∀ events e, A events → F events e → F events { cls := .timeoutError }) :
    (waitFor p).Follows L J (KeepsPoint A F) events s := by
  refine Co.follows_handle (hp.mono fun h r hr s => ?_)
  cases r with
  | ok a => exact ⟨hr.1, fun e he => by cases he⟩
  | error exc =>
    have hfails : F h exc := hr.2 exc rfl
    simp only
    split
    · refine ⟨hr.1, ?_⟩
      rintro e ⟨⟩
      exact htimer h exc hr.1 hfails
    · refine ⟨hr.1, ?_⟩
      rintro e ⟨⟩
      exact hfails

/-- What follows the execution records events of the call itself, and raises what it has raised. -/
lemma follows_settle_of (cfg : GateConfig Dump) (packet : TransportPacket)
    (hJ : ∀ events e, e.isExecution = false → J events e) {outcome : Except PyError TransportPacket}
    {events : List (GateEvent Dump)} (s : GateState Dump)
    (houtcome : ∀ e, outcome = .error e → F events e) :
    (settle cfg packet outcome).Follows L J (fun events r => ∀ e, r = .error e → F events e)
      events s := by
  cases outcome with
  | error exc =>
    have hraise : ∀ e, (.error exc : Except PyError TransportPacket) = .error e → F events e := by
      rintro e ⟨⟩
      exact houtcome exc rfl
    simp only [settle]
    split
    · exact hraise
    · exact hraise
  | ok result =>
    simp only [settle]
    refine Co.follows_call_bind (fun _ _ => ?_) fun e he => by cases he
    split
    swap
    · exact fun e he => by cases he
    refine Co.follows_call_bind (fun stored _ => ?_) fun e he => by cases he
    rcases stored with _ | ⟨key, now⟩
    · exact fun e he => by cases he
    · exact Co.follows_log_bind (hJ _ _ rfl) fun e he => by cases he

end Follows

/-- A rule of the attempts is a rule of the call, when it lets the other events of the call pass;
and the call fails as its attempts do, or for a reason of its own. -/
lemma follows_execute_of_attempts {L : Replies (gate Dump)}
    {J : List (GateEvent Dump) → GateEvent Dump → Prop} {A : List (GateEvent Dump) → Prop}
    {F : List (GateEvent Dump) → PyError → Prop} (cfg : GateConfig Dump) (packet : TransportPacket)
    (hJ : ∀ events e, e.isExecution = false → J events e)
    (hA : ∀ now deadline, A [.admitted packet, .lookedUp packet now none,
      .deadlineStarted packet deadline])
    (hrun : ∀ deadline events s, A events →
      (runOnce cfg (dispatch cfg) packet deadline).Follows L J (KeepsPoint A F) events s)
    (hsleep : ∀ events seconds (r : Except PyError Unit) e, A events → L (.retrySleep seconds) r →
      r = .error e → F events e)
    (hoverflow : ∀ events, A events → F events powerOverflow)
    (htimer : ∀ events e, A events → F events e → F events { cls := .timeoutError })
    (s : GateState Dump) :
    (execute cfg (dispatch cfg) (.ok packet)).Follows L J
      (fun events r => ∃ events', events = events' ++ [.returned r] ∧
        ∀ e, r = .error e → CallFails cfg packet F events' e) [] s := by
  -- how the call fails, before its end is recorded
  let P : List (GateEvent Dump) → Except PyError TransportPacket → Prop := fun events r =>
    ∀ e, r = .error e → CallFails cfg packet F events e
  have hend : ∀ h (r : Except PyError TransportPacket) (s : GateState Dump), P h r →
      (Co.call (S := gate Dump) leave >>= fun _ => liftExcept r).Follows L J P h s :=
    fun h r s hr => Co.follows_call_bind (fun _ _ => hr) fun exc hexc => by cases hexc
  refine Co.follows_handle (Co.Follows.mono (P := P) ?_ fun h r hr s =>
    Co.follows_log_bind (hJ _ _ rfl) ⟨h, rfl, hr⟩)
  refine Co.follows_call_bind (fun _ _ => Co.follows_log_bind (hJ _ _ rfl) ?_) fun exc hexc => ?_
  swap
  · rintro e ⟨⟩
    exact .refused _ rfl hexc
  refine Co.follows_handle (Co.Follows.mono (P := P) ?_ fun h r hr s => hend h r s hr)
  refine Co.follows_call_bind (fun found _ => Co.follows_log_bind (hJ _ _ rfl) ?_)
    fun exc hexc => by cases hexc
  rcases found with ⟨now, _ | dump⟩
  · refine Co.follows_call_bind (fun _ _ => ?_) fun exc hexc => ?_
    swap
    · rintro e ⟨⟩
      exact .replayed _ hexc
    refine Co.follows_call_bind (fun deadline _ => Co.follows_log_bind (hJ _ _ rfl) ?_)
      fun exc hexc => ?_
    swap
    · rintro e ⟨⟩
      exact .timeless _ hexc
    have hmax := (retryPolicyFor cfg packet).one_le_maxAttempts
    refine Co.follows_handle ((follows_waitFor_of (follows_attempts_of (hrun deadline) hsleep
      hoverflow (some deadline) _ 1 none le_rfl (.inl hmax) (hA now deadline) _) htimer).mono
        fun h r hr s => ?_)
    exact (follows_settle_of cfg packet hJ s hr.2).mono fun h r hr e he => .work (hr e he)
  · exact fun e he => .unreadable dump he

/-- A call whose request is refused records nothing but its end. -/
lemma follows_execute_refused {L : Replies (gate Dump)}
    {J : List (GateEvent Dump) → GateEvent Dump → Prop} (cfg : GateConfig Dump) (exc : PyError)
    (hJ : ∀ events e, e.isExecution = false → J events e) (s : GateState Dump) :
    (execute cfg (dispatch cfg) (.error exc)).Follows L J
      (fun events r => events = [.returned (.error exc)] ∧ r = .error exc) [] s :=
  ⟨hJ _ _ rfl, rfl, rfl⟩

end ConstellationGate
