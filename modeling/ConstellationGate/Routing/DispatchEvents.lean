import ConstellationGate.Lib.Transcript
import ConstellationGate.Routing.DispatchOutline

/-!
# What a dispatch records

The timeout that the dispatcher writes into the packets that it derives, and the rule for
dispatches under a discipline: a point of a program is kept by a dispatch when it is kept by
the two events that a dispatch records, whose packets carry the budget of their attempt
(`Attempt`).
-/

namespace ConstellationGate

variable {Dump : Type}

/-! ### The budget of an attempt -/

/-- The budget of an attempt in milliseconds: what is left at the clock reading, capped by the
timeout of the node. -/
structure Budgeted (budget : Option (Deadline × ℚ)) (target : NodeRegistration) (n : ℕ) :
    Prop where
  pos : 1 ≤ n
  eq : (n : ℤ) = budget.elim (target.timeoutMs : ℤ)
    fun b => min ⌊b.1.remainingSeconds b.2 * 1000⌋ target.timeoutMs

/-- The packet of an attempt carries its budget. -/
structure Attempt (deadline : Option Deadline) (budget : Option (Deadline × ℚ))
    (target : NodeRegistration) (packet : TransportPacket) : Prop where
  deadline_eq : budget.map Prod.fst = deadline
  timeoutMs : ∃ n, packet.header.timeoutMs = some n ∧ Budgeted budget target n

lemma of_budgetInMs {q : ℚ} {n : ℕ} (h : budgetInMs q = .ok n) : 1 ≤ n ∧ (n : ℤ) = ⌊q * 1000⌋ := by
  unfold budgetInMs at h
  simp only at h
  split at h
  · cases h
  · rename_i hpos
    have hn := Except.ok.inj h
    omega

/-- The floor of a budget that is capped by a number of milliseconds. -/
lemma floor_min_cap (q : ℚ) (cap : ℕ) : ⌊min q (cap / 1000) * 1000⌋ = min ⌊q * 1000⌋ (cap : ℤ) := by
  have hcap : (cap / 1000 : ℚ) * 1000 = cap := div_mul_cancel₀ _ (by norm_num)
  rw [min_mul_of_nonneg _ _ (by norm_num), hcap, Int.floor_mono.map_min, Int.floor_natCast]

/-- What `_worker_budget_ms` computes. -/
lemma budgeted_of_workerBudgetMs {target : NodeRegistration} {deadline : Option Deadline}
    {clock clock' : MonotonicClock} {n : ℕ}
    (h : workerBudgetMs target.timeoutMs deadline clock = (.ok n, clock')) :
    Budgeted (budgetReading deadline clock) target n := by
  unfold workerBudgetMs at h
  cases deadline with
  | none =>
    obtain ⟨hpos, hn⟩ := of_budgetInMs (Prod.mk.inj h).1
    refine ⟨hpos, ?_⟩
    rw [hn, div_mul_cancel₀ _ (by norm_num)]
    exact Int.floor_natCast _
  | some d =>
    simp only at h
    split at h
    · cases (Prod.mk.inj h).1
    split at h
    · cases (Prod.mk.inj h).1
    rename_i budgetSeconds hbounded
    obtain ⟨hpos, hn⟩ := of_budgetInMs (Prod.mk.inj h).1
    refine ⟨hpos, ?_⟩
    unfold Deadline.boundedBy at hbounded
    simp only at hbounded
    split at hbounded
    · cases hbounded
    rw [hn, ← Except.ok.inj hbounded, floor_min_cap]
    rfl

/-- Computing a budget only reads the clock. -/
lemma later_workerBudgetMs (nodeTimeoutMs : ℕ) (deadline : Option Deadline)
    (clock : MonotonicClock) : clock.Later (workerBudgetMs nodeTimeoutMs deadline clock).2 := by
  have htwice : clock.Later clock.tick.tick :=
    (MonotonicClock.later_tick clock).trans (MonotonicClock.later_tick clock.tick)
  unfold workerBudgetMs
  cases deadline with
  | none => exact MonotonicClock.Later.refl clock
  | some d =>
    simp only
    split
    · exact MonotonicClock.later_tick clock
    · split <;> exact htwice

/-! ### The packets -/

lemma undisturbed_derivePacket (cfg : GateConfig Dump) (packet : TransportPacket)
    (deadline : Option Deadline) (s : GateState Dump) :
    Undisturbed s (derivePacket cfg packet deadline s).2 := by
  unfold derivePacket
  split
  · exact ⟨rfl, MonotonicClock.Later.refl _⟩
  rename_i target _
  have hlater := later_workerBudgetMs target.timeoutMs deadline s.monotonic
  split
  · rename_i hbudget
    rw [hbudget] at hlater
    exact ⟨rfl, hlater⟩
  · rename_i hbudget
    rw [hbudget] at hlater
    simp only
    split <;> exact ⟨rfl, hlater⟩

/-- The derived packet carries the budget of the attempt. -/
lemma attempt_derivePacket {cfg : GateConfig Dump} {packet : TransportPacket}
    {deadline : Option Deadline} {s : GateState Dump} {plan : DispatchPlan}
    (h : (derivePacket cfg packet deadline s).1 = .ok plan) :
    Attempt deadline plan.budget plan.target plan.packet := by
  obtain ⟨-, hreading, budgetMs, clock, observed, hbudget, -, hderive⟩ := of_derivePacket h
  rw [hreading]
  refine ⟨by cases deadline <;> rfl, budgetMs, ?_, budgeted_of_workerBudgetMs hbudget⟩
  exact (cfg.sdk.derive_ok hderive).timeoutMs _ rfl

/-- Sealing a packet adds a hop. -/
lemma of_sealPacket {cfg : GateConfig Dump} {plan : DispatchPlan} {packet : TransportPacket}
    (h : sealPacket cfg plan = .ok packet) :
    ∃ hop, packet = { plan.packet with hopTrace := plan.packet.hopTrace ++ [hop] } := by
  obtain ⟨hop, -, h⟩ := bind_ok_iff.1 h
  obtain ⟨sealed, hwith, h⟩ := bind_ok_iff.1 h
  obtain ⟨-, -, h⟩ := bind_ok_iff.1 h
  obtain rfl := pure_ok_iff.1 h
  exact ⟨hop, cfg.sdk.withHop_ok hwith⟩

/-- Sealing a packet keeps its header. -/
lemma header_sealPacket {cfg : GateConfig Dump} {plan : DispatchPlan} {packet : TransportPacket}
    (h : sealPacket cfg plan = .ok packet) : packet.header = plan.packet.header := by
  obtain ⟨hop, rfl⟩ := of_sealPacket h
  rfl

/-! ### The rule for dispatches -/

lemma undisturbed_onRegistry (f : NodeRegistry → Except PyError Unit × NodeRegistry)
    (s : GateState Dump) : Undisturbed s (onRegistry f s).2 :=
  ⟨rfl, MonotonicClock.Later.refl _⟩

lemma undisturbed_onLimits (f : PerNodeLimiterManager → Except PyError Unit × PerNodeLimiterManager)
    (s : GateState Dump) : Undisturbed s (onLimits f s).2 := by
  unfold onLimits
  split <;> exact ⟨rfl, MonotonicClock.Later.refl _⟩

section Wp

variable {D : Discipline (gate Dump)} {tid : ℕ} {A : List (GateEvent Dump) → Prop}
  {st : Start (gate Dump)} {w : World (gate Dump)}

/-- The rule for a dispatch: it keeps a point that its two events keep. -/
theorem wp_dispatch (hD : ∀ s s', Undisturbed s s' → D.Env s s') (cfg : GateConfig Dump)
    (packet : TransportPacket) (deadline : Option Deadline)
    (hderived : ∀ st w budget target p, Attempt deadline budget target p → D.At tid A st w →
      D.At tid A st (w.emit tid (.derived budget target p)))
    (hhanded : ∀ st w budget target p, Attempt deadline budget target p → D.At tid A st w →
      D.At tid A st (w.emit tid (.handed budget target p)))
    (h : D.At tid A st w)
    {post : Except PyError TransportPacket → Start (gate Dump) → World (gate Dump) → Prop}
    (hpost : ∀ r st' w', D.At tid A st' w' → post r st' w') :
    (dispatch cfg packet deadline).wp D.protocol tid post st w := by
  have hstart := h.put (hD _ _ (undisturbed_derivePacket cfg packet deadline w.state))
  have hlimits : ∀ {f st w}, D.At tid A st w → D.At tid A st (w.put (onLimits f w.state).2) :=
    fun h => h.put (hD _ _ (undisturbed_onLimits _ _))
  have hregistry : ∀ {f st w}, D.At tid A st w → D.At tid A st (w.put (onRegistry f w.state).2) :=
    fun h => h.put (hD _ _ (undisturbed_onRegistry _ _))
  refine wp_dispatch_outline cfg packet deadline (fun e _ => hpost _ _ _ hstart)
    (fun plan e hplan _ => ?_) fun plan sealed hplan hseal => ?_
  · exact hpost _ _ _ (hderived _ _ _ _ _ (attempt_derivePacket hplan) hstart)
  have hattempt : Attempt deadline plan.budget plan.target plan.packet :=
    attempt_derivePacket hplan
  have hsealed : Attempt deadline plan.budget plan.target sealed :=
    ⟨hattempt.deadline_eq, by rw [header_sealPacket hseal]; exact hattempt.timeoutMs⟩
  -- the point is kept everywhere
  refine ⟨
    { Fresh := D.At tid A
      Limited := D.At tid A
      Granted := fun _ => D.At tid A
      Counted := fun _ => D.At tid A
      Holding := fun _ => D.At tid A
      Done := D.At tid A
      unlimited := fun h _ => h
      ensure_ok := fun h _ _ => hlimits h
      ensure_error := fun h _ => hlimits h
      reserve_ok := fun h _ => ⟨(hlimits h).guar _, fun _ hinv hrely =>
        ⟨fun _ => (hlimits h).woken hinv hrely, (hlimits h).woken hinv hrely⟩⟩
      reserve_error := fun h _ => hlimits h
      increment_ok := fun h _ => hhanded _ _ _ _ _ hsealed (hregistry h)
      increment_error := fun h _ => hregistry h
      send := fun h => ⟨h.guar _, fun _ _ hinv hrely => h.woken hinv hrely⟩
      mark := hregistry
      decrement_ok := fun h _ => hregistry h
      decrement_error := fun h _ => hregistry h
      release := hlimits
      nothing := fun h => h }, hderived _ _ _ _ _ hattempt hstart, hpost⟩

end Wp

end ConstellationGate
