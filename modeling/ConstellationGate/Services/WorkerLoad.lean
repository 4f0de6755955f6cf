import ConstellationGate.Lib.Balance
import ConstellationGate.Routing.Advertised
import ConstellationGate.Services.AdmissionRate
import Mathlib.Algebra.Order.BigOperators.Group.List

/-!
# The load that an admission makes

An admitted packet is attempted at most as often as its retry policy says, and an attempt hands over
one packet, or one for each step of a workflow.  An admission therefore pays for all that its call
will ever hand to workers, and a call that is not admitted hands over nothing
(`solvent_execute`, for any tariff that charges for these events).

With the limit on admissions this bounds what one source can cost the workers: the calls of one
window of the limiter hand over at most `max_requests` times the amplification of the configuration,
in whatever order the calls run and whatever the workers answer (`worker_load`).  With a tariff that
charges for awaits instead, every call ends after a number of awaits that its packet and the
configuration decide (`call_ends`).
-/

namespace ConstellationGate

variable {Dump : Type}

/-! ### What a call may do -/

/-- How many packets an attempt at a packet hands over at most. -/
def dispatchesOf (cfg : GateConfig Dump) (packet : TransportPacket) : ℕ :=
  if hasWorkflow cfg packet.header.action then (workflowSteps cfg packet.header.action).length
  else 1

/-- What a call is charged at most: for the dispatches of its attempts, and for the sleeps between
them. -/
def callCharge (cfg : GateConfig Dump) (packet : TransportPacket) (perDispatch perSleep : ℕ) : ℕ :=
  (retryPolicyFor cfg packet).maxAttempts * (dispatchesOf cfg packet * perDispatch + perSleep)

/-- A tariff for admissions, awaits and what is handed over. -/
structure Charges (t : Tariff (gate Dump)) (perHanded : ℕ) : Prop where
  handed : ∀ budget target packet, t.cost (.handed budget target packet) ≤ perHanded
  free : ∀ e, e.handed? = none → e.admission? = none → t.cost e = 0

section Solvent

variable {t : Tariff (gate Dump)} {perHanded : ℕ}

lemma Charges.log_free (ht : Charges t perHanded) {e : GateEvent Dump} (hhanded : e.handed? = none)
    (hadmission : e.admission? = none) : (Co.log (S := gate Dump) e).Solvent t 0 :=
  Co.solvent_log_free (ht.free e hhanded hadmission)

lemma solvent_acquireLimit (target : NodeRegistration) :
    (acquireLimit target : Co (gate Dump) _).Solvent t t.wait := by
  intro s
  change Co.Solvent t t.wait (if s.nodeLimits.isSome then _ else _)
  split
  · refine (Co.solvent_call _ 0).bind_free fun _ => ?_
    refine (Co.solvent_call _ 0).bind_free fun _ => ?_
    exact (Co.solvent_request (S := gate Dump) _).handle_free fun r => by cases r <;> trivial
  · trivial

lemma solvent_sendToWorker (target : NodeRegistration) (packet : TransportPacket) :
    (sendToWorker target packet : Co (gate Dump) _).Solvent t t.wait := by
  refine (Co.solvent_request (S := gate Dump) _).handle_free fun r => ?_
  cases r with
  | ok answer => trivial
  | error exc =>
    simp only
    split
    · exact (Co.solvent_call _ 0).bind_free fun _ => trivial
    · split <;> trivial

lemma solvent_giveBack (target : NodeRegistration) (permits : Permits) :
    (giveBack target permits : Co (gate Dump) _).Solvent t 0 := by
  rw [giveBack]
  split
  · refine (Co.solvent_call _ 0).bind_free fun _ => ?_
    split
    · exact Co.solvent_call _ 0
    · trivial
  · change Co.Solvent t 0 (if permits.acquiredLimit then _ else _)
    split
    · exact Co.solvent_call _ 0
    · trivial

/-- An attempt under a permit awaits at most twice and hands over at most one packet. -/
lemma solvent_attemptUnderPermit (ht : Charges t perHanded) (plan : DispatchPlan)
    (packet : TransportPacket) :
    (attemptUnderPermit plan packet : Co (gate Dump) _).Solvent t (perHanded + 2 * t.wait) := by
  have hattempt : ∀ {α : Type} {p : Co (gate Dump) α} {n : ℕ}, p.Solvent t n →
      p.attempt.Solvent t n := fun hp => hp.handle_free fun r => trivial
  have hcharge : t.wait + (perHanded + t.wait) ≤ perHanded + 2 * t.wait := by omega
  refine ((hattempt (solvent_acquireLimit plan.target)).bind fun r => ?_).mono hcharge
  cases r with
  | error exc => trivial
  | ok acquiredLimit =>
    refine (hattempt (Co.solvent_call _ 0)).bind_free fun r => ?_
    cases r with
    | error exc => trivial
    | ok u =>
      have hcost := ht.handed plan.budget plan.target packet
      refine Co.Solvent.log_bind (by omega) ?_
      have hsend := (hattempt (solvent_sendToWorker (t := t) plan.target packet)).mono
        (show t.wait ≤ perHanded + t.wait + t.gain (.handed plan.budget plan.target packet) -
          t.cost (.handed plan.budget plan.target packet) by omega)
      exact hsend.bind_last fun outcome => Co.solvent_done _ 0

lemma solvent_dispatch (ht : Charges t perHanded) (cfg : GateConfig Dump)
    (packet : TransportPacket) (deadline : Option Deadline) :
    (dispatch cfg packet deadline).Solvent t (perHanded + 2 * t.wait) := by
  refine (Co.solvent_call _ 0).bind_free fun plan => ?_
  refine (ht.log_free rfl rfl).bind_free fun _ => ?_
  refine (Co.solvent_done _ 0).bind_free fun dispatchPacket => ?_
  refine (solvent_attemptUnderPermit ht plan dispatchPacket).bind_last fun r => ?_
  obtain ⟨permits, outcome⟩ := r
  exact (solvent_giveBack plan.target permits).bind_free fun _ => trivial

/-- The steps of a workflow: each pays for its dispatch. -/
lemma solvent_executeSteps (ht : Charges t perHanded) (cfg : GateConfig Dump)
    (packet : TransportPacket) (deadline : Option Deadline) (steps : List WorkflowStep)
    (progress : Progress) :
    (executeSteps cfg (dispatch cfg) packet deadline steps progress).Solvent t
      (steps.length * (perHanded + 2 * t.wait)) := by
  induction steps generalizing progress with
  | nil => exact Co.solvent_call _ _
  | cons step steps ih =>
    rw [executeSteps, List.length_cons, Nat.succ_mul]
    refine (Co.solvent_done _ 0).bind_free fun decision => ?_
    cases decision with
    | false => exact (ih progress).mono (Nat.le_add_right _ _)
    | true =>
      refine (Co.solvent_call _ 0).bind_free fun stepPacket => ?_
      refine (ht.log_free rfl rfl).bind_free fun _ => ?_
      refine ((solvent_dispatch ht cfg stepPacket deadline).bind fun answer => ?_).mono
        (Nat.add_comm _ _).le
      exact (ht.log_free rfl rfl).bind_free fun _ => ih _

lemma solvent_runOnce (ht : Charges t perHanded) (cfg : GateConfig Dump)
    (packet : TransportPacket) (deadline : Deadline) :
    (runOnce cfg (dispatch cfg) packet deadline).Solvent t
      (dispatchesOf cfg packet * (perHanded + 2 * t.wait)) := by
  refine (ht.log_free rfl rfl).bind_free fun _ => ?_
  rw [dispatchesOf]
  split
  · rw [executeWorkflow]
    rcases hget : cfg.definitions.get? (normalize packet.header.action) with _ | definition
    · trivial
    · rw [workflowSteps_of_get? hget]
      exact solvent_executeSteps ht cfg packet (some deadline) definition.steps _
  · rw [Nat.one_mul]
    refine (solvent_dispatch ht cfg packet (some deadline)).bind_last fun answer => ?_
    exact (ht.log_free rfl rfl).bind_free fun _ => trivial

/-- The retries: each pays for its attempt and for the sleep before the next. -/
lemma solvent_attempts {α : Type} {policy : RetryPolicy} {func : Co (gate Dump) α} {n : ℕ}
    (hfunc : func.Solvent t n) (deadline : Option Deadline) (left attempt : ℕ)
    (lastExc : Option PyError) :
    (policy.attempts func deadline left attempt lastExc).Solvent t (left * (n + t.wait)) := by
  induction left generalizing attempt lastExc with
  | zero => trivial
  | succ left ih =>
    have hread : ∀ {f : ℚ → Bool}, (Co.call (S := gate Dump) readMonotonic >>= fun now =>
        pure (f now)).Solvent t 0 := fun _ => trivial
    have hcharge : n + (t.wait + left * (n + t.wait)) ≤ (left + 1) * (n + t.wait) := by
      rw [Nat.succ_mul]
      omega
    refine (hfunc.handle fun r => ?_).mono hcharge
    cases r with
    | ok a => trivial
    | error exc =>
      simp only
      refine (Co.solvent_done _ 0).bind_free fun decision => ?_
      split
      · trivial
      have houtlives : (RetryPolicy.sleepOutlives decision.delaySeconds deadline :
          Co (gate Dump) Bool).Solvent t 0 := by
        cases deadline with
        | none => trivial
        | some d => exact hread
      have hexpired : (RetryPolicy.deadlineExpired deadline : Co (gate Dump) Bool).Solvent t 0 := by
        cases deadline with
        | none => trivial
        | some d => exact hread
      have hsleep : (RetryPolicy.sleep decision.delaySeconds : Co (gate Dump) Unit).Solvent t
          t.wait := by
        rw [RetryPolicy.sleep]
        split
        · exact Co.solvent_request (S := gate Dump) _
        · trivial
      refine houtlives.bind_free fun outlives => ?_
      split
      · trivial
      refine hsleep.bind fun _ => ?_
      refine hexpired.bind_free fun expired => ?_
      split
      · trivial
      · exact ih _ _

lemma solvent_settle (ht : Charges t perHanded) (cfg : GateConfig Dump) (packet : TransportPacket)
    (outcome : Except PyError TransportPacket) : (settle cfg packet outcome).Solvent t 0 := by
  cases outcome with
  | error exc =>
    rw [settle]
    split
    · exact (Co.solvent_call _ 0).bind_free fun _ => trivial
    · trivial
  | ok result =>
    rw [settle]
    refine (Co.solvent_call _ 0).bind_free fun _ => ?_
    split
    · refine (Co.solvent_call _ 0).bind_free fun stored => ?_
      rcases stored with _ | ⟨key, now⟩
      · trivial
      · exact (ht.log_free rfl rfl).bind_free fun _ => trivial
    · trivial

/-- What an admitted call does. -/
lemma solvent_serve (ht : Charges t perHanded) (cfg : GateConfig Dump) (packet : TransportPacket) :
    (serve cfg (dispatch cfg) packet).Solvent t
      (callCharge cfg packet (perHanded + 2 * t.wait) t.wait) := by
  refine (Co.solvent_call _ 0).bind_free fun found => ?_
  obtain ⟨now, cached⟩ := found
  refine (ht.log_free rfl rfl).bind_free fun _ => ?_
  cases cached with
  | some dump => trivial
  | none =>
    refine (Co.solvent_call _ 0).bind_free fun _ => ?_
    refine (Co.solvent_call _ 0).bind_free fun deadline => ?_
    refine (ht.log_free rfl rfl).bind_free fun _ => ?_
    refine Co.Solvent.handle_free (Co.Solvent.handle_free ?_ fun r => ?_) fun r =>
      solvent_settle ht cfg packet r
    · exact solvent_attempts (solvent_runOnce ht cfg packet deadline) _ _ _ _
    · cases r with
      | ok answer => trivial
      | error exc =>
        simp only
        split <;> trivial

/-- An execute call pays for what it does, when an admission leaves enough for the work on the
packet. -/
lemma solvent_execute (ht : Charges t perHanded) (cfg : GateConfig Dump) {n : ℕ}
    {validated : Except PyError TransportPacket}
    (hadmitted : ∀ packet, validated = .ok packet →
      t.cost (.admitted packet) + callCharge cfg packet (perHanded + 2 * t.wait) t.wait ≤
        n + t.gain (.admitted packet)) :
    (execute cfg (dispatch cfg) validated).Solvent t n := by
  refine Co.Solvent.handle_free ?_ fun r => (ht.log_free rfl rfl).bind_free fun _ => trivial
  cases validated with
  | error exc => trivial
  | ok packet =>
    have hpays := hadmitted packet rfl
    change Co.Solvent t n (Co.call (S := gate Dump) (passAdmission cfg packet) >>= fun _ =>
      Co.log (S := gate Dump) (.admitted packet) >>= fun _ =>
        (serve cfg (dispatch cfg) packet).handle fun outcome =>
          Co.call (S := gate Dump) leave >>= fun _ => liftExcept outcome)
    refine (Co.solvent_call _ 0).bind_free fun _ => ?_
    refine Co.Solvent.log_bind (by omega) (Co.Solvent.handle_free ?_ fun outcome => ?_)
    · exact (solvent_serve ht cfg packet).mono (by omega)
    · exact (Co.solvent_call _ 0).bind_free fun _ => Co.solvent_done _ 0

end Solvent

/-! ### Runs -/

/-- In every run a call spends no more than it was started with and has earned. -/
lemma spent_le_of_run {t : Tariff (gate Dump)} {cfg : GateConfig Dump} {n : ℕ}
    {Env : GateState Dump → GateState Dump → Prop} {s : GateState Dump}
    {ms : List (Move (gate Dump) TransportPacket)} (hwait : t.wait = 0)
    (hsolvent : ∀ validated, (execute cfg (dispatch cfg) validated).Solvent t n)
    (h : ServiceRun cfg anyReply Env ms) (tid : ℕ) :
    t.spent (eventsIn tid (runLog s ms)) ≤ n + t.earned (eventsIn tid (runLog s ms)) := by
  by_cases hlt : tid < ((Pool.init s).run ms).tasks.length
  · obtain ⟨pre, p, hstarted⟩ := Pool.exists_started hlt
    have hmem : Move.spawn p ∈ ms := hstarted.moves.subset (by simp)
    obtain ⟨validated, rfl⟩ := h.calls p hmem
    have hle := (hstarted.solvent (hsolvent validated)).spent_le
    rw [hwait, Nat.zero_mul] at hle
    exact hle
  · have hnil : eventsIn tid (runLog s ms) = [] :=
      List.eq_nil_iff_forall_not_mem.2 fun _ he =>
        hlt (Pool.lt_length_of_mem_runLog (mem_eventsIn.1 he))
    rw [hnil]
    exact Nat.zero_le _

/-- How many packets a task has handed over. -/
def handedBy (tid : ℕ) (log : List (ℕ × GateEvent Dump)) : ℕ :=
  (eventsIn tid log).countP fun e => e.handed?.isSome

/-- The packets with which a task has been admitted. -/
def admittedBy (tid : ℕ) (log : List (ℕ × GateEvent Dump)) : List TransportPacket :=
  (eventsIn tid log).filterMap GateEvent.admission?

/-- An admission pays for what its call hands over. -/
def loadTariff (cfg : GateConfig Dump) : Tariff (gate Dump) where
  gain e := e.admission?.elim 0 fun packet => callCharge cfg packet 1 0
  cost e := if e.handed?.isSome then 1 else 0
  wait := 0

/-- An admission is paid for. -/
def admissionTariff : Tariff (gate Dump) where
  gain _ := 0
  cost e := if e.admission?.isSome then 1 else 0
  wait := 0

lemma spent_eq_countP {t : Tariff (gate Dump)} {p : GateEvent Dump → Bool}
    (hcost : ∀ e, t.cost e = if p e then 1 else 0) (events : List (GateEvent Dump)) :
    t.spent events = events.countP p := by
  induction events with
  | nil => rfl
  | cons e events ih =>
    rw [Tariff.spent, List.map_cons, List.sum_cons, List.countP_cons, hcost e, Nat.add_comm]
    exact congrArg (· + _) ih

lemma earned_loadTariff (cfg : GateConfig Dump) (events : List (GateEvent Dump)) :
    (loadTariff cfg).earned events =
      ((events.filterMap GateEvent.admission?).map fun packet =>
        callCharge cfg packet 1 0).sum := by
  induction events with
  | nil => rfl
  | cons e events ih =>
    change (e.admission?.elim 0 fun packet => callCharge cfg packet 1 0) +
      (loadTariff cfg).earned events = _
    rw [ih, List.filterMap_cons]
    cases e.admission? with
    | none => exact Nat.zero_add _
    | some packet => rfl

section Runs

variable {cfg : GateConfig Dump} {Env : GateState Dump → GateState Dump → Prop}
  {s : GateState Dump} {ms : List (Move (gate Dump) TransportPacket)}

/-- A call hands over no more than its admission allows. -/
lemma handedBy_le (h : ServiceRun cfg anyReply Env ms) (tid : ℕ) :
    handedBy tid (runLog s ms) ≤
      ((admittedBy tid (runLog s ms)).map fun packet => callCharge cfg packet 1 0).sum := by
  have hcharges : Charges (loadTariff cfg) 1 := by
    refine ⟨fun _ _ _ => le_rfl, fun e hhanded _ => ?_⟩
    simp only [loadTariff, hhanded]
    rfl
  have hsolvent : ∀ validated, (execute cfg (dispatch cfg) validated).Solvent (loadTariff cfg) 0 :=
    fun validated => solvent_execute hcharges cfg fun packet _ => le_rfl
  have hle := spent_le_of_run (s := s) rfl hsolvent h tid
  rw [Nat.zero_add, earned_loadTariff, spent_eq_countP fun _ => rfl] at hle
  exact hle

/-- A call is admitted at most once. -/
lemma length_admittedBy_le (h : ServiceRun cfg anyReply Env ms) (tid : ℕ) :
    (admittedBy tid (runLog s ms)).length ≤ 1 := by
  have hcharges : Charges (admissionTariff : Tariff (gate Dump)) 0 := by
    refine ⟨fun _ _ _ => le_rfl, fun e _ hadmission => ?_⟩
    simp only [admissionTariff, hadmission]
    rfl
  have hsolvent : ∀ validated,
      (execute cfg (dispatch cfg) validated).Solvent (admissionTariff : Tariff (gate Dump)) 1 := by
    refine fun validated => solvent_execute hcharges cfg fun packet _ => ?_
    change 1 + callCharge cfg packet 0 0 ≤ 1 + 0
    rw [callCharge, Nat.mul_zero, Nat.add_zero, Nat.mul_zero]
  have hearned : ∀ events : List (GateEvent Dump),
      (admissionTariff : Tariff (gate Dump)).earned events = 0 := fun events => by
    simp [Tariff.earned, admissionTariff]
  have hle := spent_le_of_run (s := s) rfl hsolvent h tid
  rw [hearned, Nat.add_zero, spent_eq_countP fun _ => rfl] at hle
  rw [admittedBy, List.length_filterMap_eq_countP]
  exact hle

/-! ### The amplification -/

variable (cfg) in
/-- The most that an admission can make the workers do. -/
def amplification : ℕ :=
  cfg.retryPolicy.maxAttempts *
    (cfg.definitions.entries.map fun e => e.2.steps.length).foldr max 1

lemma le_foldr_max {l : List ℕ} {n : ℕ} (h : n ∈ l) (m : ℕ) : n ≤ l.foldr max m := by
  induction l with
  | nil => cases h
  | cons k l ih =>
    rw [List.foldr_cons]
    rcases List.mem_cons.1 h with rfl | hmem
    · exact le_max_left _ _
    · exact (ih hmem).trans (le_max_right _ _)

lemma one_le_foldr_max (l : List ℕ) : 1 ≤ l.foldr max 1 := by
  induction l with
  | nil => exact le_rfl
  | cons k l ih => exact ih.trans (le_max_right _ _)

lemma callCharge_le (cfg : GateConfig Dump) (packet : TransportPacket) :
    callCharge cfg packet 1 0 ≤ amplification cfg := by
  have hattempts : (retryPolicyFor cfg packet).maxAttempts ≤ cfg.retryPolicy.maxAttempts :=
    min_le_right _ _
  have hdispatches : dispatchesOf cfg packet ≤
      (cfg.definitions.entries.map fun e => e.2.steps.length).foldr max 1 := by
    rw [dispatchesOf]
    split
    · rw [workflowSteps]
      rcases hget : cfg.definitions.get? (normalize packet.header.action) with _ | definition
      · exact Nat.zero_le _
      · have hmem : definition.steps.length ∈
            cfg.definitions.entries.map fun e => e.2.steps.length :=
          List.mem_map.2 ⟨_, Dict.mem_entries_iff.2 hget, rfl⟩
        exact le_foldr_max hmem 1
    · exact one_le_foldr_max _
  rw [callCharge, Nat.mul_one, Nat.add_zero]
  exact Nat.mul_le_mul hattempts hdispatches

/-! ### The admissions with their tasks -/

/-- The entries of a log that are admissions, with their tasks and sources. -/
def admissionsIn (log : List (ℕ × GateEvent Dump)) (now : ℚ) : List (ℕ × AllowCall) :=
  log.filterMap fun e => e.2.admission?.map fun packet =>
    (e.1, ⟨packet.address.sourceNode, now⟩)

/-- What a run admits from a pool on: the tasks, with their sources and the clock readings at which
the moves have begun. -/
def admissionRecordsFrom :
    Pool (gate Dump) TransportPacket → List (Move (gate Dump) TransportPacket) →
      List (ℕ × AllowCall)
  | _, [] => []
  | c, m :: ms =>
    admissionsIn ((c.step m).world.log.drop c.world.log.length) c.world.state.monotonic.now ++
      admissionRecordsFrom (c.step m) ms

/-- The admissions of a run, with their tasks. -/
abbrev admissionRecords (s : GateState Dump) (ms : List (Move (gate Dump) TransportPacket)) :
    List (ℕ × AllowCall) :=
  admissionRecordsFrom (Pool.init s) ms

lemma map_snd_admissionsIn (log : List (ℕ × GateEvent Dump)) (now : ℚ) :
    (admissionsIn log now).map Prod.snd =
      (admittedIn log).map fun packet => ⟨packet.address.sourceNode, now⟩ := by
  rw [admissionsIn, admittedIn, List.map_filterMap, List.map_filterMap]
  simp only [Option.map_map]
  rfl

/-- The tasks of a log that have been admitted. -/
def admittedTasks (log : List (ℕ × GateEvent Dump)) : List ℕ :=
  log.filterMap fun e => e.2.admission?.map fun _ => e.1

lemma map_fst_admissionsIn (log : List (ℕ × GateEvent Dump)) (now : ℚ) :
    (admissionsIn log now).map Prod.fst = admittedTasks log := by
  rw [admissionsIn, admittedTasks, List.map_filterMap]
  simp only [Option.map_map]
  rfl

lemma map_snd_admissionRecordsFrom (c : Pool (gate Dump) TransportPacket)
    (ms : List (Move (gate Dump) TransportPacket)) :
    (admissionRecordsFrom c ms).map Prod.snd = admissionCallsFrom c ms := by
  induction ms generalizing c with
  | nil => rfl
  | cons m ms ih =>
    rw [admissionRecordsFrom, admissionCallsFrom, List.map_append, map_snd_admissionsIn, ih]

lemma map_fst_admissionRecordsFrom (c : Pool (gate Dump) TransportPacket)
    (ms : List (Move (gate Dump) TransportPacket)) :
    admittedTasks (c.run ms).world.log =
      admittedTasks c.world.log ++ (admissionRecordsFrom c ms).map Prod.fst := by
  induction ms generalizing c with
  | nil => exact (List.append_nil _).symm
  | cons m ms ih =>
    obtain ⟨log', hlog⟩ := c.log_prefix_run [m]
    have hstep : (c.step m).world.log = c.world.log ++ log' := hlog.symm
    have htasks : admittedTasks (c.world.log ++ log') =
        admittedTasks c.world.log ++ admittedTasks log' := List.filterMap_append
    rw [Pool.run_cons, ih, admissionRecordsFrom, hstep, List.drop_left, htasks, List.map_append,
      map_fst_admissionsIn, List.append_assoc]

/-- A task is as often among the admitted ones as it has been admitted. -/
lemma count_admittedTasks (tid : ℕ) (log : List (ℕ × GateEvent Dump)) :
    (admittedTasks log).count tid = (admittedBy tid log).length := by
  induction log with
  | nil => rfl
  | cons e log ih =>
    obtain ⟨i, e⟩ := e
    have hevents : eventsIn tid ((i, e) :: log) =
        (if i = tid then [e] else []) ++ eventsIn tid log := by
      by_cases hi : i = tid <;> simp [eventsIn, hi]
    rw [admittedBy, hevents, List.filterMap_append, List.length_append, ← admittedBy, ← ih,
      admittedTasks, List.filterMap_cons]
    rcases hadmission : e.admission? with _ | packet
    · by_cases hi : i = tid <;> simp [hi, hadmission, admittedTasks]
    · by_cases hi : i = tid <;> simp [hi, hadmission, admittedTasks, Nat.add_comm]

variable (s ms) in
lemma admittedTasks_run :
    admittedTasks (runLog s ms) = (admissionRecords s ms).map Prod.fst :=
  map_fst_admissionRecordsFrom (Pool.init s) ms

/-- What is admitted of a source in one window. -/
def windowRecords (s : GateState Dump) (ms : List (Move (gate Dump) TransportPacket))
    (source : String) (index : ℤ) : List (ℕ × AllowCall) :=
  (admissionRecords s ms).filter fun r =>
    decide (r.2.key = source ∧ ⌊r.2.now / s.rateLimiter.windowSeconds⌋ = index)

lemma length_windowRecords (source : String) (index : ℤ) :
    (windowRecords s ms source index).length =
      (timesFor source (admissionCalls s ms)).countP
        fun t => decide (⌊t / s.rateLimiter.windowSeconds⌋ = index) := by
  rw [windowRecords, timesFor, List.countP_map, List.countP_filter, ← List.countP_eq_length_filter,
    admissionCalls, ← map_snd_admissionRecordsFrom, List.countP_map]
  refine List.countP_congr fun r _ => ?_
  simp [and_comm]

/-- Whatever the interleaving, every packet that is handed to a worker is handed by a call that has
been admitted, once; and the calls of one source that are admitted in one window of the limiter
hand over at most `max_requests` times the amplification, from their admission on to the end of the
run, whatever the workers answer and whoever else calls. -/
theorem worker_load {cfg : GateConfig Dump} {s : GateState Dump}
    {ms : List (Move (gate Dump) TransportPacket)} (hnew : s.rateLimiter.counters = Dict.empty)
    (h : ServiceRun cfg anyReply Unmetered ms) :
    ((admissionRecords s ms).map Prod.fst).Nodup ∧
      (∀ tid, 0 < handedBy tid (runLog s ms) → tid ∈ (admissionRecords s ms).map Prod.fst) ∧
      ∀ source index,
        ((windowRecords s ms source index).map fun r => handedBy r.1 (runLog s ms)).sum ≤
          s.rateLimiter.maxRequests * amplification cfg := by
  refine ⟨?_, fun tid hhanded => ?_, fun source index => ?_⟩
  · rw [← admittedTasks_run, List.nodup_iff_count_le_one]
    intro tid
    rw [count_admittedTasks]
    exact length_admittedBy_le h tid
  · -- what is handed over has been paid for by an admission
    have hle := handedBy_le (s := s) h tid
    rw [← admittedTasks_run, ← List.count_pos_iff, count_admittedTasks]
    by_contra hnone
    have hnil : admittedBy tid (runLog s ms) = [] := List.length_eq_zero_iff.1 (by omega)
    rw [hnil] at hle
    exact absurd hle (Nat.not_le.2 hhanded)
  · have hbound : ∀ tid, handedBy tid (runLog s ms) ≤ amplification cfg := by
      intro tid
      refine (handedBy_le h tid).trans ?_
      have hlength := length_admittedBy_le (s := s) h tid
      rcases hadmitted : admittedBy tid (runLog s ms) with _ | ⟨packet, _ | ⟨packet', packets⟩⟩
      · exact Nat.zero_le _
      · exact callCharge_le cfg packet
      · rw [hadmitted] at hlength
        simp at hlength
    obtain ⟨calls, hmetered⟩ := metered_run hnew h
    calc ((windowRecords s ms source index).map fun r => handedBy r.1 (runLog s ms)).sum
        ≤ (windowRecords s ms source index).length * amplification cfg := by
          have hsum := List.sum_le_card_nsmul
            ((windowRecords s ms source index).map fun r => handedBy r.1 (runLog s ms))
            (amplification cfg) (List.forall_mem_map.2 fun r _ => hbound r.1)
          rwa [List.length_map, Nat.nsmul_eq_mul] at hsum
      _ ≤ s.rateLimiter.maxRequests * amplification cfg := by
          rw [length_windowRecords]
          exact Nat.mul_le_mul_right _ (hmetered.countP_le source index)

end Runs

/-- In the run of three calls one packet is handed over for each of the two admissions, which are in
different windows. -/
theorem worker_load_threeOrders :
    (admissionRecords meteredState threeOrders).map Prod.fst = [0, 2] ∧
      ((windowRecords meteredState threeOrders "client" 0).map fun r =>
        handedBy r.1 (runLog meteredState threeOrders)).sum ≤ 3 := by
  obtain ⟨-, -, hwindow⟩ := worker_load (s := meteredState) rfl threeOrders_run
  exact ⟨by decide +kernel, (hwindow "client" 0).trans (by decide +kernel)⟩

/-! ### The end of a call -/

/-- An await costs one, and nothing else. -/
def awaitTariff : Tariff (gate Dump) where
  gain _ := 0
  cost _ := 0
  wait := 1

/-- In every run, whatever else runs in it and whatever is answered, an execute call awaits at most
as often as its packet and the configuration say: twice for each packet that it may hand over, and
once between two attempts.  When it has been woken as often, it has ended. -/
theorem call_ends {cfg : GateConfig Dump} {s : GateState Dump}
    {ms pre : List (Move (gate Dump) TransportPacket)} {tid : ℕ} {packet : TransportPacket}
    (h : Pool.Started s ms tid pre (execute cfg (dispatch cfg) (.ok packet))) :
    (Pool.init s).turnsOf tid ms ≤ callCharge cfg packet 2 1 + 1 ∧
      ((Pool.init s).turnsOf tid ms = callCharge cfg packet 2 1 + 1 →
        ∃ outcome, ((Pool.init s).run ms).tasks[tid]? = some (.finished outcome)) := by
  have hcharges : Charges (awaitTariff : Tariff (gate Dump)) 0 :=
    ⟨fun _ _ _ => le_rfl, fun _ _ _ => rfl⟩
  have hcall : (execute cfg (dispatch cfg) (.ok packet)).Solvent (awaitTariff : Tariff (gate Dump))
      (callCharge cfg packet 2 1) := by
    refine solvent_execute hcharges cfg fun p hp => ?_
    obtain rfl := Except.ok.inj hp
    change 0 + callCharge cfg packet 2 1 ≤ callCharge cfg packet 2 1 + 0
    omega
  have hsolvent := h.solvent hcall
  have hfree : ∀ events : List (GateEvent Dump),
      (awaitTariff : Tariff (gate Dump)).spent events = 0 ∧
        (awaitTariff : Tariff (gate Dump)).earned events = 0 := fun events => by
    simp [Tariff.spent, Tariff.earned, awaitTariff]
  have hwait : (awaitTariff : Tariff (gate Dump)).wait = 1 := rfl
  constructor
  · have hle := hsolvent.spent_le
    rw [(hfree _).1, (hfree _).2, hwait] at hle
    omega
  · intro hturns
    refine hsolvent.finished ?_
    rw [(hfree _).1, (hfree _).2, hwait]
    omega

/-- A packet that is served at its first attempt: its call may await three times, and awaits
once. -/
theorem call_ends_servedOrder :
    (Pool.init scoringState).turnsOf 0 servedOrder = 2 ∧
      (Pool.init scoringState).turnsOf 0 servedOrder ≤ 3 + 1 := by
  have hstarted : Pool.Started scoringState servedOrder 0 []
      (execute .plain (dispatch .plain) (.ok (order "first" "score"))) :=
    ⟨⟨_, rfl⟩, rfl⟩
  have hends := (call_ends hstarted).1
  exact ⟨by decide +kernel, hends.trans (by decide +kernel)⟩

end ConstellationGate
