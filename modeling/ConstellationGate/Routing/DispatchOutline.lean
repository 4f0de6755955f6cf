import ConstellationGate.Routing.Dispatch

/-!
# Proof outlines of a dispatch

What is proved about every dispatch is proved along its statements.  A `DispatchOutline` names
what holds at each place of `dispatch`, once its packet is sealed, and has one field for each
statement that leads from a place to the next.  `wp_dispatch_outline` is the one walk through the
code: a program that meets the fields of an outline is correct.
-/

namespace ConstellationGate

variable {Dump : Type}

/-- The state operations of a dispatch on its target. -/
abbrev ensured (target : NodeRegistration) (s : GateState Dump) :
    Except PyError Unit × GateState Dump :=
  onLimits (fun m => m.ensureNodeLimit target.nodeName target.maxConcurrent) s

@[inherit_doc ensured]
abbrev reserved (target : NodeRegistration) (s : GateState Dump) :
    Except PyError Unit × GateState Dump :=
  onLimits (fun m => m.reserve target.nodeName) s

@[inherit_doc ensured]
abbrev released (target : NodeRegistration) (s : GateState Dump) :
    Except PyError Unit × GateState Dump :=
  onLimits (fun m => m.release target.nodeName) s

@[inherit_doc ensured]
abbrev incremented (target : NodeRegistration) (s : GateState Dump) :
    Except PyError Unit × GateState Dump :=
  onRegistry (fun reg => reg.incrementActive target.nodeName) s

@[inherit_doc ensured]
abbrev decremented (target : NodeRegistration) (s : GateState Dump) :
    Except PyError Unit × GateState Dump :=
  onRegistry (fun reg => reg.decrementActive target.nodeName) s

@[inherit_doc ensured]
abbrev marked (target : NodeRegistration) (s : GateState Dump) :
    Except PyError Unit × GateState Dump :=
  onRegistry (fun reg => reg.markUnhealthy target.nodeName) s

/-- What holds along the statements of a dispatch that has sealed its packet. -/
structure DispatchOutline (P : Protocol (gate Dump)) (tid : ℕ) (plan : DispatchPlan)
    (packet : TransportPacket) where
  /-- Before the permit is asked for. -/
  Fresh : Start (gate Dump) → World (gate Dump) → Prop
  /-- With the limit of the node configured. -/
  Limited : Start (gate Dump) → World (gate Dump) → Prop
  /-- With a permit, if the flag says that there is a limiter. -/
  Granted : Bool → Start (gate Dump) → World (gate Dump) → Prop
  /-- On the counter of the node, before the packet is sent. -/
  Counted : Bool → Start (gate Dump) → World (gate Dump) → Prop
  /-- Before the `finally` block, with its flags. -/
  Holding : Permits → Start (gate Dump) → World (gate Dump) → Prop
  /-- After the `finally` block. -/
  Done : Start (gate Dump) → World (gate Dump) → Prop
  unlimited : ∀ {st w}, Fresh st w → w.state.nodeLimits = none → Granted false st w
  ensure_ok : ∀ {st w}, Fresh st w → w.state.nodeLimits.isSome = true →
    (ensured plan.target w.state).1 = .ok () → Limited st (w.put (ensured plan.target w.state).2)
  ensure_error : ∀ {st w e}, Fresh st w → (ensured plan.target w.state).1 = .error e →
    Holding ⟨false, false⟩ st (w.put (ensured plan.target w.state).2)
  reserve_ok : ∀ {st w}, Limited st w → (reserved plan.target w.state).1 = .ok () →
    P.Guar tid st (w.put (reserved plan.target w.state).2)
        (some (.limiterYield plan.target.nodeName)) ∧
      ∀ w', P.Inv w' → P.Rely tid (w.put (reserved plan.target w.state).2) w' →
        (∀ e, Holding ⟨false, false⟩
          ⟨w', some ⟨.limiterYield plan.target.nodeName, .error e⟩⟩ w') ∧
        Granted true ⟨w', some ⟨.limiterYield plan.target.nodeName, .ok ()⟩⟩ w'
  reserve_error : ∀ {st w e}, Limited st w → (reserved plan.target w.state).1 = .error e →
    Holding ⟨false, false⟩ st (w.put (reserved plan.target w.state).2)
  increment_ok : ∀ {b st w}, Granted b st w → (incremented plan.target w.state).1 = .ok () →
    Counted b st ((w.put (incremented plan.target w.state).2).emit tid
      (.handed plan.budget plan.target packet))
  increment_error : ∀ {b st w e}, Granted b st w →
    (incremented plan.target w.state).1 = .error e →
    Holding ⟨b, false⟩ st (w.put (incremented plan.target w.state).2)
  send : ∀ {b st w}, Counted b st w →
    P.Guar tid st w (some (.send plan.target.nodeName packet plan.target.internalUrl)) ∧
      ∀ (r : Except PyError TransportPacket) w', P.Inv w' → P.Rely tid w w' →
        Holding ⟨b, true⟩
          ⟨w', some ⟨.send plan.target.nodeName packet plan.target.internalUrl, r⟩⟩ w'
  mark : ∀ {b st w}, Holding ⟨b, true⟩ st w →
    Holding ⟨b, true⟩ st (w.put (marked plan.target w.state).2)
  decrement_ok : ∀ {b st w}, Holding ⟨b, true⟩ st w →
    (decremented plan.target w.state).1 = .ok () →
    Holding ⟨b, false⟩ st (w.put (decremented plan.target w.state).2)
  decrement_error : ∀ {b st w e}, Holding ⟨b, true⟩ st w →
    (decremented plan.target w.state).1 = .error e →
    Done st (w.put (decremented plan.target w.state).2)
  release : ∀ {st w}, Holding ⟨true, false⟩ st w → Done st (w.put (released plan.target w.state).2)
  nothing : ∀ {st w}, Holding ⟨false, false⟩ st w → Done st w

namespace DispatchOutline

variable {P : Protocol (gate Dump)} {tid : ℕ} {plan : DispatchPlan} {packet : TransportPacket}
  (O : DispatchOutline P tid plan packet) {st : Start (gate Dump)} {w : World (gate Dump)}

/-- `acquire` ends with a permit, or without a limiter, or with an exception. -/
lemma wp_acquireLimit (h : O.Fresh st w)
    {post : Except PyError Bool → Start (gate Dump) → World (gate Dump) → Prop}
    (herr : ∀ e st' w', O.Holding ⟨false, false⟩ st' w' → post (.error e) st' w')
    (hok : ∀ b st' w', O.Granted b st' w' → post (.ok b) st' w') :
    (acquireLimit plan.target).wp P tid post st w := by
  rw [acquireLimit, Co.wp_bind, Co.wp_read]
  rcases hlimits : w.state.nodeLimits with _ | m
  · exact hok _ _ _ (O.unlimited h hlimits)
  have hsome : w.state.nodeLimits.isSome = true := by rw [hlimits]; rfl
  simp only [Option.isSome_some, if_true]
  rw [Co.wp_bind, Co.wp_call]
  rcases hensure : (ensured plan.target w.state).1 with e | u
  · exact herr _ _ _ (O.ensure_error h hensure)
  have hlimited := O.ensure_ok h hsome hensure
  simp only
  rw [Co.wp_bind, Co.wp_call]
  generalize w.put (ensured plan.target w.state).2 = w₁ at hlimited ⊢
  rcases hreserve : (reserved plan.target w₁.state).1 with e | u
  · exact herr _ _ _ (O.reserve_error hlimited hreserve)
  obtain ⟨hguar, hwoken⟩ := O.reserve_ok hlimited hreserve
  simp only
  rw [Co.wp_bind, wp_limiterYield]
  refine ⟨hguar, fun r w' _ hinv hrely => ?_⟩
  cases r with
  | error e => exact herr _ _ _ ((hwoken w' hinv hrely).1 e)
  | ok u => exact hok _ _ _ (hwoken w' hinv hrely).2

/-- The network attempt ends with the flags that it began with. -/
lemma wp_sendToWorker {b : Bool} (h : O.Counted b st w)
    {post : Except PyError TransportPacket → Start (gate Dump) → World (gate Dump) → Prop}
    (hpost : ∀ r st' w', O.Holding ⟨b, true⟩ st' w' → post r st' w') :
    (sendToWorker plan.target packet).wp P tid post st w := by
  obtain ⟨hguar, hwoken⟩ := O.send h
  rw [sendToWorker, Co.wp_handle, wp_sendGateAuthoredPacket]
  refine ⟨hguar, fun r w' _ hinv hrely => ?_⟩
  have hheld := hwoken r w' hinv hrely
  cases r with
  | ok answer => exact hpost _ _ _ hheld
  | error exc =>
    simp only
    split
    · -- the node is marked unhealthy before the failure is passed on
      rw [Co.wp_bind, Co.wp_call]
      split <;> exact hpost _ _ _ (O.mark hheld)
    · split <;> exact hpost _ _ _ hheld

/-- The `finally` block gives back what its flags say. -/
lemma wp_giveBack {permits : Permits} (h : O.Holding permits st w)
    {post : Except PyError Unit → Start (gate Dump) → World (gate Dump) → Prop}
    (hpost : ∀ r st' w', O.Done st' w' → post r st' w') :
    (giveBack plan.target permits).wp P tid post st w := by
  obtain ⟨acquiredLimit, incremented⟩ := permits
  have hrelease : ∀ w₁, O.Holding ⟨acquiredLimit, false⟩ st w₁ →
      (if acquiredLimit then
        Co.call (S := gate Dump) (onLimits fun m => m.release plan.target.nodeName)
        else pure ()).wp P tid post st w₁ := by
    intro w₁ h₁
    cases acquiredLimit with
    | false => exact hpost _ _ _ (O.nothing h₁)
    | true => exact hpost _ _ _ (O.release h₁)
  unfold giveBack
  cases incremented with
  | false => exact hrelease w h
  | true =>
    simp only [if_true]
    rw [Co.wp_bind, Co.wp_call]
    rcases hdecrement : (decremented plan.target w.state).1 with e | u
    · exact hpost _ _ _ (O.decrement_error h hdecrement)
    · exact hrelease _ (O.decrement_ok h hdecrement)

/-- What is left of a dispatch when its packet is sealed. -/
lemma wp_attempt (h : O.Fresh st w)
    {post : Except PyError TransportPacket → Start (gate Dump) → World (gate Dump) → Prop}
    (hpost : ∀ r st' w', O.Done st' w' → post r st' w') :
    (attemptUnderPermit plan packet >>= fun attempted =>
      giveBack plan.target attempted.1 >>= fun _ =>
        (liftExcept attempted.2 : Co (gate Dump) TransportPacket)).wp P tid post st w := by
  have hend : ∀ (permits : Permits) (outcome : Except PyError TransportPacket) st' w',
      O.Holding permits st' w' →
      (giveBack plan.target permits >>= fun _ => (liftExcept outcome : Co (gate Dump) _)).wp P tid
        post st' w' := by
    intro permits outcome st' w' hheld
    rw [Co.wp_bind]
    refine O.wp_giveBack hheld fun r st'' w'' hdone => ?_
    cases r with
    | error e => exact hpost _ _ _ hdone
    | ok u => exact hpost _ _ _ hdone
  rw [Co.wp_bind, attemptUnderPermit, Co.wp_bind, Co.wp_attempt]
  refine O.wp_acquireLimit h (fun e st' w' hheld => hend ⟨false, false⟩ (.error e) _ _ hheld)
    fun acquiredLimit st₁ w₁ hgranted => ?_
  simp only
  rw [Co.wp_bind, Co.wp_attempt, Co.wp_call]
  rcases hincrement : (incremented plan.target w₁.state).1 with e | u
  · exact hend ⟨acquiredLimit, false⟩ (.error e) _ _ (O.increment_error hgranted hincrement)
  simp only
  rw [Co.wp_bind, Co.wp_log]
  simp only
  rw [Co.wp_bind, Co.wp_attempt]
  refine O.wp_sendToWorker (O.increment_ok hgranted hincrement) fun outcome st₂ w₂ hheld => ?_
  exact hend ⟨acquiredLimit, true⟩ outcome _ _ hheld

end DispatchOutline

/-- The rule for dispatches: it is enough to have an outline for each packet that is sealed. -/
theorem wp_dispatch_outline {P : Protocol (gate Dump)} {tid : ℕ} {st : Start (gate Dump)}
    {w : World (gate Dump)} (cfg : GateConfig Dump) (packet : TransportPacket)
    (deadline : Option Deadline)
    {post : Except PyError TransportPacket → Start (gate Dump) → World (gate Dump) → Prop}
    (hrefused : ∀ e, (derivePacket cfg packet deadline w.state).1 = .error e →
      post (.error e) st (w.put (derivePacket cfg packet deadline w.state).2))
    (hunsealed : ∀ plan e, (derivePacket cfg packet deadline w.state).1 = .ok plan →
      sealPacket cfg plan = .error e →
      post (.error e) st ((w.put (derivePacket cfg packet deadline w.state).2).emit tid
        (.derived plan.budget plan.target plan.packet)))
    (hsealed : ∀ plan sealed, (derivePacket cfg packet deadline w.state).1 = .ok plan →
      sealPacket cfg plan = .ok sealed → ∃ O : DispatchOutline P tid plan sealed,
        O.Fresh st ((w.put (derivePacket cfg packet deadline w.state).2).emit tid
          (.derived plan.budget plan.target plan.packet)) ∧
        ∀ r st' w', O.Done st' w' → post r st' w') :
    (dispatch cfg packet deadline).wp P tid post st w := by
  rw [dispatch, Co.wp_bind, Co.wp_call]
  rcases hplan : (derivePacket cfg packet deadline w.state).1 with e | plan
  · exact hrefused e hplan
  simp only
  rw [Co.wp_bind, Co.wp_log]
  simp only
  rw [Co.wp_bind, wp_liftExcept]
  rcases hseal : sealPacket cfg plan with e | sealed
  · exact hunsealed plan e hplan hseal
  obtain ⟨O, hfresh, hdone⟩ := hsealed plan sealed hplan hseal
  exact O.wp_attempt hfresh hdone

end ConstellationGate
