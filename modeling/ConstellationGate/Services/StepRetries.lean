import ConstellationGate.Lib.History
import ConstellationGate.Orchestration.RoutableSteps
import ConstellationGate.Orchestration.StepIdentities
import ConstellationGate.Orchestration.StepTimeouts
import ConstellationGate.Services.ExecuteFootprint

/-!
# Retries of workflow steps

How often an execute call gives a packet or a workflow step to the dispatcher.

The attempts that a call may make are counted for the action of its own packet, so a packet
whose action is not declared safe for a replay is attempted once.  A retry repeats a workflow from
its first step, whatever the actions of the steps are: a step is handed over once for each attempt
that reaches it (`started_or_retried`).
-/

namespace ConstellationGate

variable {Dump : Type}

/-! ### Counting attempts -/

/-- The event is the start of an attempt. -/
def GateEvent.isAttempt : GateEvent Dump → Bool
  | .attempted _ => true
  | _ => false

/-- The number of attempts that have begun. -/
def attemptsIn (events : List (GateEvent Dump)) : ℕ := events.countP GateEvent.isAttempt

/-- The steps that have been handed over since the last attempt has begun. -/
def startedSince (events : List (GateEvent Dump)) : List WorkflowStep :=
  events.foldl (fun started e =>
    match e with
    | .attempted _ => []
    | .stepStarted step _ => step :: started
    | _ => started) []

/-- The event neither begins an attempt nor hands over a step. -/
def GateEvent.isQuiet : GateEvent Dump → Bool
  | .attempted _ | .stepStarted _ _ => false
  | _ => true

section Counting

variable (events : List (GateEvent Dump))

@[simp] lemma attemptsIn_attempted (p : TransportPacket) :
    attemptsIn (events ++ [.attempted p]) = attemptsIn events + 1 := by
  simp [attemptsIn, GateEvent.isAttempt]

@[simp] lemma attemptsIn_stepStarted (step : WorkflowStep) (p : TransportPacket) :
    attemptsIn (events ++ [.stepStarted step p]) = attemptsIn events := by
  simp [attemptsIn, GateEvent.isAttempt]

lemma startedSince_attempted (p : TransportPacket) :
    startedSince (events ++ [.attempted p]) = [] := by
  simp [startedSince]

@[simp] lemma startedSince_stepStarted (step : WorkflowStep) (p : TransportPacket) :
    startedSince (events ++ [.stepStarted step p]) = step :: startedSince events := by
  simp [startedSince]

lemma startedSince_concat_quiet {e : GateEvent Dump} (he : e.isQuiet = true) :
    startedSince (events ++ [e]) = startedSince events := by
  cases e with
  | attempted p => cases he
  | stepStarted step p => cases he
  | _ => simp [startedSince]

lemma attemptsIn_concat_quiet {e : GateEvent Dump} (he : e.isQuiet = true) :
    attemptsIn (events ++ [e]) = attemptsIn events := by
  cases e with
  | attempted p => cases he
  | stepStarted step p => cases he
  | _ => simp [attemptsIn, GateEvent.isAttempt]

/-- Quiet events count for nothing. -/
lemma counts_quiet {events' : List (GateEvent Dump)} (h : ∀ e ∈ events', e.isQuiet = true) :
    attemptsIn (events ++ events') = attemptsIn events ∧
      startedSince (events ++ events') = startedSince events := by
  induction events' using List.reverseRecOn with
  | nil =>
    rw [List.append_nil]
    exact ⟨rfl, rfl⟩
  | append_singleton events' e ih =>
    have he := h e (by simp)
    rw [← List.append_assoc, attemptsIn_concat_quiet _ he, startedSince_concat_quiet _ he]
    exact ih fun e' he' => h e' (by simp [he'])

end Counting

/-- A step that has been handed over has been so in the last attempt, or the call has been
attempted again. -/
lemma started_or_retried {events : List (GateEvent Dump)} {i : ℕ} {step : WorkflowStep}
    {p : TransportPacket} (h : events[i]? = some (.stepStarted step p)) :
    step ∈ startedSince events ∨ ∃ k q, i < k ∧ events[k]? = some (.attempted q) := by
  induction events using List.reverseRecOn with
  | nil => cases h
  | append_singleton events e ih =>
    have hlt := (List.getElem?_eq_some_iff.1 h).1
    rw [List.length_append, List.length_singleton] at hlt
    rcases Nat.lt_succ_iff_lt_or_eq.1 hlt with hi | rfl
    · rw [List.getElem?_append_left hi] at h
      rcases ih h with hmem | ⟨k, q, hik, hk⟩
      · cases e with
        | attempted q => exact .inr ⟨events.length, q, hi, by simp⟩
        | stepStarted step' q => exact .inl (by simp [hmem])
        | _ =>
          rw [startedSince_concat_quiet _ rfl]
          exact .inl hmem
      · refine .inr ⟨k, q, hik, ?_⟩
        rw [List.getElem?_append_left (List.getElem?_eq_some_iff.1 hk).1]
        exact hk
    · rw [List.getElem?_concat_length] at h
      obtain rfl := Option.some.inj h
      exact .inl (by simp)

/-! ### The rule that a call follows -/

/-- An attempt begins only while the budget of the packet lasts, and hands over each step of the
workflow at most once. -/
def RetryRule (cfg : GateConfig Dump) (packet : TransportPacket) (events : List (GateEvent Dump)) :
    GateEvent Dump → Prop
  | .attempted p => p = packet ∧ attemptsIn events < (retryPolicyFor cfg packet).maxAttempts
  | .stepStarted step _ => step ∈ workflowSteps cfg packet.header.action ∧
      1 ≤ attemptsIn events ∧ step ∉ startedSince events
  | _ => True

section Follows

variable {L : Replies (gate Dump)} (cfg : GateConfig Dump) (packet : TransportPacket)

lemma retryRule_of_isQuiet (events : List (GateEvent Dump)) {e : GateEvent Dump}
    (he : e.isQuiet = true) : RetryRule cfg packet events e := by
  cases e with
  | attempted p => cases he
  | stepStarted step p => cases he
  | _ => trivial

/-- What records nothing but quiet events follows the rule. -/
lemma follows_of_quiet {α : Type} {p : Co (gate Dump) α} {events : List (GateEvent Dump)}
    {s : GateState Dump}
    (hp : p.Within (fun e : GateEvent Dump => e.isQuiet = true) (fun _ _ => True) s) :
    p.Follows L (RetryRule cfg packet) (fun events' _ => attemptsIn events' = attemptsIn events ∧
      startedSince events' = startedSince events) events s := by
  refine Co.follows_of_within hp (Co.ends_of_forall (P := fun _ => True) (fun _ => trivial) p)
    (fun es e _ he => retryRule_of_isQuiet cfg packet _ he) fun es r hes _ => ?_
  exact counts_quiet events hes

lemma quiet_dispatch (p : TransportPacket) (deadline : Option Deadline) (s : GateState Dump) :
    (dispatch cfg p deadline).Within (fun e : GateEvent Dump => e.isQuiet = true)
      (fun _ _ => True) s :=
  within_dispatch (fun _ _ _ => trivial) cfg p deadline (fun _ _ _ => rfl) (fun _ _ _ => rfl) s

/-- The loop over the steps hands each of them over at most once. -/
lemma follows_executeSteps_once (request : TransportPacket) (deadline : Option Deadline)
    {steps : List WorkflowStep} (hsteps : steps ⊆ workflowSteps cfg packet.header.action)
    (hnodup : steps.Nodup) (progress : Progress) (events : List (GateEvent Dump))
    (s : GateState Dump) (hattempts : 1 ≤ attemptsIn events)
    (hfresh : ∀ step ∈ steps, step ∉ startedSince events) :
    (executeSteps cfg (dispatch cfg) request deadline steps progress).Follows L
      (RetryRule cfg packet) (fun events' _ => attemptsIn events' = attemptsIn events) events
      s := by
  induction steps generalizing progress events s with
  | nil => rfl
  | cons step steps ih =>
    obtain ⟨hstep, hrest⟩ := List.cons_subset.1 hsteps
    obtain ⟨hnotin, hnodup⟩ := List.nodup_cons.1 hnodup
    rw [executeSteps]
    rcases shouldExecuteStep cfg step progress with e | executed
    · exact rfl
    cases executed with
    | false =>
      exact ih hrest hnodup progress events s hattempts fun step' h =>
        hfresh step' (List.mem_cons_of_mem _ h)
    | true =>
      refine Co.follows_call_bind (fun p hp => ?_) fun _ _ => rfl
      refine ⟨⟨hstep, hattempts, hfresh step (List.mem_cons_self ..)⟩, Co.follows_bind
        ((follows_of_quiet cfg packet (quiet_dispatch cfg p deadline _)).mono fun h r hr => ?_)⟩
      rw [attemptsIn_stepStarted, startedSince_stepStarted] at hr
      refine ⟨?_, fun _ _ => hr.1⟩
      rintro answer rfl s
      -- the answer is recorded, and the steps that are left have not been handed over
      have hanswered := startedSince_concat_quiet h (e := .stepAnswered step answer) rfl
      have hcount := attemptsIn_concat_quiet h (e := .stepAnswered step answer) rfl
      refine ⟨trivial, (ih hrest hnodup _ _ s ?_ fun step' h' => ?_).mono fun h' r hr' => ?_⟩
      · omega
      · rw [hanswered, hr.2, List.mem_cons, not_or]
        exact ⟨fun heq => hnotin (heq ▸ h'), hfresh step' (List.mem_cons_of_mem _ h')⟩
      · omega

/-- One attempt. -/
lemma follows_runOnce (deadline : Deadline) (events : List (GateEvent Dump)) (s : GateState Dump)
    (hbudget : attemptsIn events < (retryPolicyFor cfg packet).maxAttempts) :
    (runOnce cfg (dispatch cfg) packet deadline).Follows L (RetryRule cfg packet)
      (fun events' _ => attemptsIn events' = attemptsIn events + 1) events s := by
  refine ⟨⟨rfl, hbudget⟩, ?_⟩
  change Co.Follows L _ _ (if _ then _ else _) _ _
  have hcount := attemptsIn_attempted events packet
  split
  · rw [executeWorkflow]
    split
    · exact hcount
    · rename_i definition hdefinition
      have hsteps := workflowSteps_of_get? hdefinition
      have hnodup : definition.steps.Nodup := List.Nodup.of_map _ definition.names_nodup
      refine (follows_executeSteps_once cfg packet packet (some deadline)
        (hsteps ▸ List.Subset.refl _) hnodup _ _ s (by omega) ?_).mono fun h r hr => ?_
      · -- a new attempt has not handed over any step
        intro step _
        rw [startedSince_attempted]
        exact List.not_mem_nil
      · omega
  · refine Co.follows_bind
      ((follows_of_quiet cfg packet (quiet_dispatch cfg packet _ s)).mono fun h r hr => ?_)
    refine ⟨?_, fun _ _ => hr.1.trans hcount⟩
    rintro answer rfl s
    have hanswered := attemptsIn_concat_quiet h (e := .answered answer) rfl
    exact ⟨trivial, hanswered.trans (hr.1.trans hcount)⟩

/-- The retries: an attempt begins only while the budget lasts. -/
lemma follows_attempts {α : Type} {policy : RetryPolicy} {func : Co (gate Dump) α}
    {J : List (GateEvent Dump) → GateEvent Dump → Prop}
    (hfunc : ∀ events s, attemptsIn events < policy.maxAttempts → func.Follows L J
      (fun events' _ => attemptsIn events' = attemptsIn events + 1) events s)
    (deadline : Option Deadline) (left attempt : ℕ) (lastExc : Option PyError)
    (events : List (GateEvent Dump)) (s : GateState Dump)
    (hleft : attemptsIn events + left = policy.maxAttempts) :
    (policy.attempts func deadline left attempt lastExc).Follows L J (fun _ _ => True) events
      s := by
  have hwork : ∀ s s' : GateState Dump, Working s s' → True := fun _ _ _ => trivial
  induction left generalizing attempt lastExc events s with
  | zero => trivial
  | succ left ih =>
    refine Co.follows_handle ((hfunc events s (by omega)).mono fun h r hr s => ?_)
    cases r with
    | ok a => trivial
    | error exc =>
      simp only
      rcases policy.decisionFor attempt exc with e | decision
      · trivial
      change Co.Follows L J _ (if _ then _ else _) h s
      split
      · trivial
      refine Co.follows_silent_bind (within_sleepOutlives hwork decision.delaySeconds deadline s)
        (fun _ => trivial) fun outlives s => ?_
      split
      · trivial
      refine Co.follows_silent_bind (within_sleep decision.delaySeconds s) (fun _ => trivial)
        fun _ s => ?_
      refine Co.follows_silent_bind (within_deadlineExpired hwork deadline s) (fun _ => trivial)
        fun expired s => ?_
      split
      · trivial
      · exact ih _ _ h s (by omega)

lemma follows_waitFor {α : Type} {p : Co (gate Dump) α}
    {J : List (GateEvent Dump) → GateEvent Dump → Prop} {events : List (GateEvent Dump)}
    {s : GateState Dump} (hp : p.Follows L J (fun _ _ => True) events s) :
    (waitFor p).Follows L J (fun _ _ => True) events s := by
  refine Co.follows_handle (hp.mono fun h r _ s => ?_)
  cases r with
  | ok a => trivial
  | error e =>
    simp only
    split <;> trivial

lemma follows_serve (events : List (GateEvent Dump)) (s : GateState Dump)
    (hnone : attemptsIn events = 0) :
    (serve cfg (dispatch cfg) packet).Follows L (RetryRule cfg packet) (fun _ _ => True) events
      s := by
  refine Co.follows_call_bind (fun found _ => Co.follows_log_bind trivial ?_) fun _ _ => trivial
  rcases found with ⟨now, _ | dump⟩
  · refine Co.follows_call_bind (fun _ _ => ?_) fun _ _ => trivial
    refine Co.follows_call_bind (fun deadline _ => Co.follows_log_bind trivial ?_)
      fun _ _ => trivial
    have hcount : attemptsIn (events ++ [.lookedUp packet now none] ++
        [.deadlineStarted packet deadline]) = 0 := by
      rw [attemptsIn_concat_quiet _ rfl, attemptsIn_concat_quiet _ rfl, hnone]
    refine Co.follows_handle ((follows_waitFor (follows_attempts
      (follows_runOnce cfg packet deadline) (some deadline) _ 1 none _ _ ?_)).mono ?_)
    · rw [hcount, Nat.zero_add]
    · intro h r _ s
      exact (follows_of_quiet cfg packet (within_settle (fun _ _ _ => trivial) cfg
        (fun _ _ _ => rfl) r s)).mono fun _ _ _ => trivial
  · trivial

/-- An execute call follows the rule. -/
lemma follows_execute (s : GateState Dump) :
    (execute cfg (dispatch cfg) (.ok packet)).Follows L (RetryRule cfg packet) (fun _ _ => True) []
      s := by
  refine Co.follows_handle (Co.Follows.mono (P := fun _ _ => True) ?_ fun h r _ s =>
    Co.follows_log_bind trivial trivial)
  refine Co.follows_call_bind (fun _ _ => Co.follows_log_bind trivial ?_) fun _ _ => trivial
  exact Co.follows_handle ((follows_serve cfg packet _ _ rfl).mono fun h r _ s => trivial)

end Follows

/-! ### Runs -/

/-- A packet without a workflow whose action is not declared safe for a replay is given to the
dispatcher at most once. -/
def DirectOnce (cfg : GateConfig Dump) (events : List (GateEvent Dump)) : Prop :=
  ∀ (i j : ℕ) (p q : TransportPacket), events[i]? = some (.attempted p) →
    events[j]? = some (.attempted q) → hasWorkflow cfg p.header.action = false →
    isDeclaredReplaySafe cfg.replaySafeActions p.header.action = false → i = j

/-- A step whose action is not declared safe for a replay is given to the dispatcher at most
once. -/
def StepsOnce (cfg : GateConfig Dump) (events : List (GateEvent Dump)) : Prop :=
  ∀ (i j : ℕ) (step : WorkflowStep) (p q : TransportPacket),
    events[i]? = some (.stepStarted step p) → events[j]? = some (.stepStarted step q) →
    isDeclaredReplaySafe cfg.replaySafeActions step.action = false → i = j

/-- No attempt begins after a step has been handed over whose action is not declared safe for a
replay. -/
def RetriedSafely (cfg : GateConfig Dump) (events : List (GateEvent Dump)) : Prop :=
  ∀ (i k : ℕ) (step : WorkflowStep) (p q : TransportPacket),
    events[i]? = some (.stepStarted step p) → events[k]? = some (.attempted q) → i < k →
    isDeclaredReplaySafe cfg.replaySafeActions step.action = true

/-- How to see of the events of a run that its retries are safe. -/
lemma retriedSafely_of_pairwise {cfg : GateConfig Dump} {events : List (GateEvent Dump)}
    (h : events.Pairwise fun e f => (e.stepStarted?.all fun started =>
      !f.isAttempt || isDeclaredReplaySafe cfg.replaySafeActions started.1.action) = true) :
    RetriedSafely cfg events := by
  intro i k step p q hi hk hik
  obtain ⟨hi', hstarted⟩ := List.getElem?_eq_some_iff.1 hi
  obtain ⟨hk', hattempted⟩ := List.getElem?_eq_some_iff.1 hk
  have hsafe := List.pairwise_iff_getElem.1 h i k hi' hk' hik
  rw [hstarted, hattempted] at hsafe
  exact hsafe

/-- A retry is not the first attempt. -/
lemma one_le_attemptsIn {events : List (GateEvent Dump)} {i j : ℕ} {p : TransportPacket}
    (h : events[i]? = some (.attempted p)) (hij : i < j) : 1 ≤ attemptsIn (events.take j) := by
  refine List.countP_pos_iff.2 ⟨.attempted p, List.mem_of_getElem? (i := i) ?_, rfl⟩
  rw [List.getElem?_take_of_lt hij, h]

section Obeys

variable {cfg : GateConfig Dump} {packet : TransportPacket} {events : List (GateEvent Dump)}

lemma budget_of_attempts (hobeys : Obeys (RetryRule cfg packet) events) {i j : ℕ}
    {p q : TransportPacket} (hi : events[i]? = some (.attempted p))
    (hj : events[j]? = some (.attempted q)) (hij : i < j) :
    p = packet ∧ 1 < (retryPolicyFor cfg packet).maxAttempts :=
  ⟨(hobeys.of_getElem? hi).1,
    (one_le_attemptsIn hi hij).trans_lt (hobeys.of_getElem? hj).2⟩

lemma directOnce_of_obeys (hobeys : Obeys (RetryRule cfg packet) events) :
    DirectOnce cfg events := by
  -- two attempts need a budget that an undeclared action does not have
  have hlt : ∀ (i j : ℕ) (p q : TransportPacket), events[i]? = some (.attempted p) →
      events[j]? = some (.attempted q) →
      isDeclaredReplaySafe cfg.replaySafeActions p.header.action = false → ¬ i < j := by
    intro i j p q hi hj hsafe hij
    obtain ⟨rfl, hbudget⟩ := budget_of_attempts hobeys hi hj hij
    have hone : (retryPolicyFor cfg p).maxAttempts ≤ defaultMaxAttempts := by
      refine (min_le_left _ _).trans_eq ?_
      rw [maxAttemptsFor, hsafe]
      rfl
    exact absurd hone hbudget.not_ge
  intro i j p q hi hj _ hsafe
  have hsame : q = p := by
    rw [(hobeys.of_getElem? hi).1, (hobeys.of_getElem? hj).1]
  subst hsame
  exact le_antisymm (not_lt.1 (hlt j i q q hj hi hsafe)) (not_lt.1 (hlt i j q q hi hj hsafe))

/-- Between two times that a step is handed over an attempt begins. -/
lemma retried_between (hobeys : Obeys (RetryRule cfg packet) events) {i j : ℕ}
    {step : WorkflowStep} {p q : TransportPacket} (hi : events[i]? = some (.stepStarted step p))
    (hj : events[j]? = some (.stepStarted step q)) (hij : i < j) :
    ∃ k r, i < k ∧ events[k]? = some (.attempted r) := by
  have htake : (events.take j)[i]? = some (.stepStarted step p) := by
    rw [List.getElem?_take_of_lt hij, hi]
  rcases started_or_retried htake with hmem | ⟨k, r, hik, hk⟩
  · exact absurd hmem (hobeys.of_getElem? hj).2.2
  · refine ⟨k, r, hik, ?_⟩
    have hkj : k < j := (List.getElem?_eq_some_iff.1 hk).1.trans_le (List.length_take_le j events)
    rwa [List.getElem?_take_of_lt hkj] at hk

lemma stepsOnce_of_obeys (hobeys : Obeys (RetryRule cfg packet) events)
    (hretried : RetriedSafely cfg events) : StepsOnce cfg events := by
  have hlt : ∀ (i j : ℕ) (step : WorkflowStep) (p q : TransportPacket),
      events[i]? = some (.stepStarted step p) → events[j]? = some (.stepStarted step q) →
      isDeclaredReplaySafe cfg.replaySafeActions step.action = false → ¬ i < j := by
    intro i j step p q hi hj hsafe hij
    obtain ⟨k, r, hik, hk⟩ := retried_between hobeys hi hj hij
    exact absurd (hretried i k step p r hi hk hik) (by rw [hsafe]; exact Bool.false_ne_true)
  intro i j step p q hi hj hsafe
  exact le_antisymm (not_lt.1 (hlt j i step q p hj hi hsafe))
    (not_lt.1 (hlt i j step p q hi hj hsafe))

/-- With one attempt, or with a workflow of declared steps only, there is no unsafe retry. -/
lemma retriedSafely_of_obeys (hobeys : Obeys (RetryRule cfg packet) events)
    (h : (retryPolicyFor cfg packet).maxAttempts = 1 ∨
      ∀ step ∈ workflowSteps cfg packet.header.action,
        isDeclaredReplaySafe cfg.replaySafeActions step.action = true) :
    RetriedSafely cfg events := by
  intro i k step p q hi hk hik
  obtain ⟨hstep, hattempts, -⟩ := hobeys.of_getElem? hi
  rcases h with hone | hall
  · have hmore : attemptsIn (events.take i) ≤ attemptsIn (events.take k) :=
      (List.take_sublist_take_left hik.le).countP_le
    have hbudget := (hobeys.of_getElem? hk).2
    omega
  · exact hall step hstep

end Obeys

/-- In every run of an execute call, whatever workers answer: a packet whose action is not declared
safe for a replay is dispatched at most once; and a step whose action is not declared is handed over
at most once when no attempt begins after an undeclared step has been handed over, as none does
where the packet is allowed one attempt or all steps of its workflow are declared. -/
theorem handed_over_once {cfg : GateConfig Dump} {s : GateState Dump}
    {ms pre : List (Move (gate Dump) TransportPacket)} {tid : ℕ} {packet : TransportPacket}
    (h : Pool.Started s ms tid pre (execute cfg (dispatch cfg) (.ok packet))) :
    DirectOnce cfg (eventsIn tid (runLog s ms)) ∧
      (RetriedSafely cfg (eventsIn tid (runLog s ms)) →
        StepsOnce cfg (eventsIn tid (runLog s ms))) ∧
      ((retryPolicyFor cfg packet).maxAttempts = 1 ∨
        (∀ step ∈ workflowSteps cfg packet.header.action,
          isDeclaredReplaySafe cfg.replaySafeActions step.action = true) →
        StepsOnce cfg (eventsIn tid (runLog s ms))) := by
  obtain ⟨t, -, -, hobeys⟩ := h.follows (L := fun _ _ => True)
    (fun s => follows_execute cfg packet s) fun _ _ _ _ => trivial
  exact ⟨directOnce_of_obeys hobeys, stepsOnce_of_obeys hobeys,
    fun hinput => stepsOnce_of_obeys hobeys (retriedSafely_of_obeys hobeys hinput)⟩

/-! ### Steps before and after a retry -/

/-- No worker answers in time. -/
def timingOut : ∀ q : GateRequest, Except PyError q.Reply
  | .limiterYield _ => .ok ()
  | .send _ _ _ => .error { cls := .timeoutError }
  | .retrySleep _ => .ok ()
  | .dispatch _ _ => .error { cls := .timeoutError }

/-- The order of a client that times out. -/
def unansweredScore : List (Move (gate TransportPacket) TransportPacket) :=
  [.spawn (execute .plain (dispatch .plain) (.ok (clientPacket "acme" "score" (some "order-1")))),
   .resume 0 timingOut]

lemma unansweredScore_started : Pool.Started scoringState unansweredScore 0 []
    (execute .plain (dispatch .plain) (.ok (clientPacket "acme" "score" (some "order-1")))) :=
  ⟨⟨[.resume 0 timingOut], rfl⟩, rfl⟩

/-- The settings in which the workflow that ranks and scores and its first step are declared safe
for a replay, and its second step is not. -/
def rankedAgainConfig : GateConfig TransportPacket :=
  { GateConfig.ranking with replaySafeActions := ["pipeline", "rank"] }

/-- The first attempt times out at its first step; the second one comes to the second step. -/
def rankedAgain : List (Move (gate TransportPacket) TransportPacket) :=
  [.spawn (execute rankedAgainConfig (dispatch rankedAgainConfig) (.ok keyedRequest)),
   .resume 0 timingOut, .resume 0 timingOut, .resume 0 derivedReply]

lemma rankedAgain_started : Pool.Started rankingState rankedAgain 0 []
    (execute rankedAgainConfig (dispatch rankedAgainConfig) (.ok keyedRequest)) :=
  ⟨⟨[.resume 0 timingOut, .resume 0 timingOut, .resume 0 derivedReply], rfl⟩, rfl⟩

/-- The order is dispatched once.  In the run with a retry no attempt begins after the second step
is handed over, so that it is handed over once. -/
theorem handed_over_once_rankedAgain :
    DirectOnce .plain (eventsIn 0 (runLog scoringState unansweredScore)) ∧
      attemptsIn (eventsIn 0 (runLog scoringState unansweredScore)) = 1 ∧
      RetriedSafely rankedAgainConfig (eventsIn 0 (runLog rankingState rankedAgain)) ∧
      attemptsIn (eventsIn 0 (runLog rankingState rankedAgain)) = 2 ∧
      StepsOnce rankedAgainConfig (eventsIn 0 (runLog rankingState rankedAgain)) := by
  have hsafely : RetriedSafely rankedAgainConfig (eventsIn 0 (runLog rankingState rankedAgain)) :=
    retriedSafely_of_pairwise (by decide +kernel)
  exact ⟨(handed_over_once unansweredScore_started).1, by decide +kernel, hsafely,
    by decide +kernel, (handed_over_once rankedAgain_started).2.1 hsafely⟩

/-- The settings in which the workflow `pipeline` is declared safe for a replay, and the action of
its step is not. -/
def replayedConfig : GateConfig TransportPacket :=
  { GateConfig.scoring none one_le_noTimeout with replaySafeActions := ["pipeline"] }

/-- The first attempt times out, and after the sleep the second one begins. -/
def repeatedPipeline : List (Move (gate TransportPacket) TransportPacket) :=
  [.spawn (execute replayedConfig (dispatch replayedConfig)
    (.ok (clientPacket "acme" "pipeline" (some "order-1")))),
   .resume 0 timingOut, .resume 0 timingOut]

lemma repeatedPipeline_started : Pool.Started scoringState repeatedPipeline 0 []
    (execute replayedConfig (dispatch replayedConfig)
      (.ok (clientPacket "acme" "pipeline" (some "order-1")))) :=
  ⟨⟨[.resume 0 timingOut, .resume 0 timingOut], rfl⟩, rfl⟩

/-- The worker is given the step a second time. -/
theorem step_handed_over_twice :
    ¬ ∀ (cfg : GateConfig TransportPacket) (s : GateState TransportPacket) ms tid pre packet,
      (∀ action ∈ workerOwnedRetryActions, action ∉ cfg.replaySafeActions) →
      Pool.Started s ms tid pre (execute cfg (dispatch cfg) (.ok packet)) →
      DirectOnce cfg (eventsIn tid (runLog s ms)) ∧ StepsOnce cfg (eventsIn tid (runLog s ms)) := by
  intro h
  have honce := (h _ _ _ _ _ _ (by decide +kernel) repeatedPipeline_started).2
  generalize hevents : eventsIn 0 (runLog scoringState repeatedPipeline) = events at honce
  have htwice : ((events[4]?.bind GateEvent.stepStarted?).any fun h =>
      (events[8]?.bind GateEvent.stepStarted?).any fun h' =>
        (h.1.name = h'.1.name ∧ h.1.action = h'.1.action ∧ h.1.timeoutMs = h'.1.timeoutMs ∧
          h.1.mergeStrategy = h'.1.mergeStrategy ∧ h.1.condition = h'.1.condition) ∧
        isDeclaredReplaySafe replayedConfig.replaySafeActions h.1.action = false) = true := by
    subst hevents
    decide +kernel
  obtain ⟨⟨step, p⟩, hstarted, hrest⟩ := (Option.any_eq_true _ _).1 htwice
  obtain ⟨⟨step', p'⟩, hstarted', hcheck⟩ := (Option.any_eq_true _ _).1 hrest
  obtain ⟨e, hget, he⟩ := Option.bind_eq_some_iff.1 hstarted
  obtain ⟨e', hget', he'⟩ := Option.bind_eq_some_iff.1 hstarted'
  obtain rfl := GateEvent.stepStarted?_eq_some.1 he
  obtain rfl := GateEvent.stepStarted?_eq_some.1 he'
  obtain ⟨⟨hname, haction, htimeout, hmerge, hcondition⟩, hsafe⟩ := of_decide_eq_true hcheck
  obtain rfl := WorkflowStep.ext hname haction htimeout hmerge hcondition
  exact absurd (honce 4 8 step p p' hget hget' hsafe) (by decide)

end ConstellationGate
