import ConstellationGate.Services.ExecuteFootprint

/-!
# The first segment of an execute call

Up to its execution a call awaits nothing, so that its first segment ends the call or brings it to
its execution.  `Opens` says how (`segment_execute_opens`): the call is turned away in one of the
ways of `TurnedAway`, or the work on its packet begins in the state that `Begins` describes.
-/

namespace ConstellationGate

variable {Dump : Type}

/-- The world after task `tid` has left the state `s` and recorded events. -/
def worldAfter (w : World (gate Dump)) (tid : ℕ) (s : GateState Dump)
    (events : List (GateEvent Dump)) : World (gate Dump) :=
  ⟨s, w.log ++ events.map (Prod.mk tid)⟩

section WorldAfter

variable (w : World (gate Dump)) (tid : ℕ) (s s' : GateState Dump)
  (events events' : List (GateEvent Dump))

@[simp] lemma worldAfter_state : (worldAfter w tid s events).state = s := rfl

@[simp] lemma worldAfter_log :
    (worldAfter w tid s events).log = w.log ++ events.map (Prod.mk tid) := rfl

@[simp] lemma worldAfter_put : (worldAfter w tid s events).put s' = worldAfter w tid s' events :=
  rfl

@[simp] lemma worldAfter_emit (e : GateEvent Dump) :
    (worldAfter w tid s events).emit tid e = worldAfter w tid s (events ++ [e]) := by
  simp [worldAfter, World.emit]

@[simp] lemma worldAfter_worldAfter :
    worldAfter (worldAfter w tid s events) tid s' events' =
      worldAfter w tid s' (events ++ events') := by
  simp [worldAfter]

lemma put_eq_worldAfter : w.put s = worldAfter w tid s [] := by
  simp [worldAfter, World.put]

end WorldAfter

/-! ### The parts of a call -/

/-- What an execute call does when its work `q` has an outcome. -/
def closing (q : Co (gate Dump) TransportPacket) : Co (gate Dump) TransportPacket :=
  (q.handle fun outcome => do
    Co.call (S := gate Dump) leave
    liftExcept outcome).handle fun outcome => do
      Co.log (S := gate Dump) (.returned outcome)
      liftExcept outcome

/-- The execution of a packet by some work, with what follows it. -/
def executing (cfg : GateConfig Dump) (packet : TransportPacket)
    (work : Co (gate Dump) TransportPacket) : Co (gate Dump) TransportPacket :=
  closing (work.handle (settle cfg packet))

section Admitted

variable {cfg : GateConfig Dump} {packet : TransportPacket} {tid : ℕ} {w : World (gate Dump)}

/-- A call that is admitted goes on as its work does. -/
lemma segment_execute_admitted {s' : GateState Dump} {q : Co (gate Dump) TransportPacket}
    {w' : World (gate Dump)} (hadmitted : passAdmission cfg packet w.state = (.ok (), s'))
    (hserve : (serve cfg (dispatch cfg) packet).segment tid
        ((w.put s').emit tid (.admitted packet)) =
      q.segment tid w') :
    (execute cfg (dispatch cfg) (.ok packet)).segment tid w = (closing q).segment tid w' := by
  have hexec : (execute cfg (dispatch cfg) (.ok packet)).segment tid w =
      (closing (serve cfg (dispatch cfg) packet)).segment tid
        ((w.put s').emit tid (.admitted packet)) := by
    rw [execute, Co.segment_handle, closing, Co.segment_handle]
    congr 1
    exact Co.segment_bind_call_ok hadmitted
  rw [hexec, closing, Co.segment_handle, Co.segment_handle, hserve, ← Co.segment_handle,
    ← Co.segment_handle, closing]

/-- What a call does after its lookup. -/
def afterLookUp (cfg : GateConfig Dump) (packet : TransportPacket) :
    Option Dump → Co (gate Dump) TransportPacket
  | some dump => liftExcept (cfg.sdk.modelValidate dump)
  | none => Co.call (S := gate Dump) (guardReplay packet) >>= fun _ => afterGuard cfg packet

lemma segment_serve (cfg : GateConfig Dump) (tid : ℕ) (w : World (gate Dump))
    {packet : TransportPacket} {now : ℚ} {found : Option Dump} {s' : GateState Dump}
    (hlookUp : lookUp packet w.state = (.ok (now, found), s')) :
    (serve cfg (dispatch cfg) packet).segment tid w =
      (afterLookUp cfg packet found).segment tid
        ((w.put s').emit tid (.lookedUp packet now found)) := by
  have hcall : (serve cfg (dispatch cfg) packet).segment tid w =
      (Co.log (S := gate Dump) (.lookedUp packet now found) >>= fun _ =>
        afterLookUp cfg packet found).segment tid (w.put s') := by
    rw [serve]
    refine (Co.segment_bind_call_ok hlookUp).trans ?_
    cases found <;> rfl
  exact hcall

end Admitted

/-! ### How a call opens -/

/-- A call for the packet that starts in the state `s` is admitted, and its lookup at the clock
reading `now` finds nothing and leaves the state `s'`. -/
def Misses (cfg : GateConfig Dump) (packet : TransportPacket) (s : GateState Dump) (now : ℚ)
    (s' : GateState Dump) : Prop :=
  ∃ s₁, passAdmission cfg packet s = (.ok (), s₁) ∧ lookUp packet s₁ = (.ok (now, none), s')

/-- The ways in which a call that starts in the state `s` ends without an execution: the state and
the events at its end, and its outcome. -/
inductive TurnedAway (cfg : GateConfig Dump) (s : GateState Dump) :
    Except PyError TransportPacket → GateState Dump → List (GateEvent Dump) →
      Except PyError TransportPacket → Prop
  /-- The ingress validation refuses it. -/
  | invalid (e : PyError) : TurnedAway cfg s (.error e) s [.returned (.error e)] (.error e)
  /-- Admission control refuses it. -/
  | refused {packet : TransportPacket} {e : PyError} {s' : GateState Dump}
      (hrefused : passAdmission cfg packet s = (.error e, s')) :
      TurnedAway cfg s (.ok packet) s' [.returned (.error e)] (.error e)
  /-- It is answered from the cache. -/
  | cached {packet : TransportPacket} {now : ℚ} {dump : Dump} {s₁ s₂ : GateState Dump}
      (hadmitted : passAdmission cfg packet s = (.ok (), s₁))
      (hfound : lookUp packet s₁ = (.ok (now, some dump), s₂)) :
      TurnedAway cfg s (.ok packet) (leave s₂).2
        [.admitted packet, .lookedUp packet now (some dump),
          .returned (cfg.sdk.modelValidate dump)] (cfg.sdk.modelValidate dump)
  /-- The replay guard refuses it. -/
  | replayed {packet : TransportPacket} {now : ℚ} {e : PyError} {s₂ s₃ : GateState Dump}
      (hmisses : Misses cfg packet s now s₂) (hguard : guardReplay packet s₂ = (.error e, s₃)) :
      TurnedAway cfg s (.ok packet) (leave s₃).2
        [.admitted packet, .lookedUp packet now none, .returned (.error e)] (.error e)
  /-- It has no budget. -/
  | unstarted {packet : TransportPacket} {now : ℚ} {e : PyError} {s₂ s₃ s₄ : GateState Dump}
      (hmisses : Misses cfg packet s now s₂) (hguard : guardReplay packet s₂ = (.ok (), s₃))
      (hdeadline : startDeadline cfg packet s₃ = (.error e, s₄)) :
      TurnedAway cfg s (.ok packet) (leave s₄).2
        [.admitted packet, .lookedUp packet now none, .returned (.error e)] (.error e)

/-- A call for the packet that starts in the state `s` comes to its execution in the state `s'`. -/
def Begins (cfg : GateConfig Dump) (packet : TransportPacket) (s : GateState Dump) (now : ℚ)
    (deadline : Deadline) (s' : GateState Dump) : Prop :=
  ∃ s₂ s₃, Misses cfg packet s now s₂ ∧ guardReplay packet s₂ = (.ok (), s₃) ∧
    startDeadline cfg packet s₃ = (.ok deadline, s')

/-- What a call records before its execution. -/
def begunEvents (packet : TransportPacket) (now : ℚ) (deadline : Deadline) :
    List (GateEvent Dump) :=
  [.admitted packet, .lookedUp packet now none, .deadlineStarted packet deadline]

/-- How the first segment of a call ends, that begins in the world `w`. -/
inductive Opens (cfg : GateConfig Dump) (tid : ℕ) (w : World (gate Dump)) :
    Except PyError TransportPacket → Status (gate Dump) TransportPacket × World (gate Dump) → Prop
  | turnedAway {validated outcome : Except PyError TransportPacket} {s : GateState Dump}
      {events : List (GateEvent Dump)}
      (haway : TurnedAway cfg w.state validated s events outcome) :
      Opens cfg tid w validated (.finished outcome, worldAfter w tid s events)
  | begins {packet : TransportPacket} {now : ℚ} {deadline : Deadline} {s : GateState Dump}
      (hbegins : Begins cfg packet w.state now deadline s) :
      Opens cfg tid w (.ok packet)
        ((executing cfg packet (deadlineWork cfg packet deadline)).segment tid
          (worldAfter w tid s (begunEvents packet now deadline)))

/-- A call that does not execute its packet ends in one go. -/
lemma segment_closing_done (r : Except PyError TransportPacket) (tid : ℕ)
    (w : World (gate Dump)) :
    (closing (.done r)).segment tid w =
      (.finished r, worldAfter w tid (leave w.state).2 [.returned r]) := rfl

/-- Every call opens so. -/
lemma segment_execute_opens (cfg : GateConfig Dump) (validated : Except PyError TransportPacket)
    (tid : ℕ) (w : World (gate Dump)) :
    Opens cfg tid w validated ((execute cfg (dispatch cfg) validated).segment tid w) := by
  rcases validated with e | packet
  · exact .turnedAway (.invalid e)
  rcases hadmission : passAdmission cfg packet w.state with ⟨e | u, s₁⟩
  · -- admission control refuses the packet
    have hseg : (execute cfg (dispatch cfg) (.ok packet)).segment tid w =
        (.finished (.error e), worldAfter w tid s₁ [.returned (.error e)]) := by
      rw [execute, Co.segment_handle]
      exact congrArg _ (Co.segment_bind_call_error hadmission)
    rw [hseg]
    exact .turnedAway (.refused hadmission)
  obtain ⟨now, found, s₂, hlookUp⟩ : ∃ now found s₂, lookUp packet s₁ = (.ok (now, found), s₂) :=
    ⟨_, _, _, rfl⟩
  have hserve := segment_serve cfg tid ((w.put s₁).emit tid (.admitted packet)) hlookUp
  have hlooked : (((w.put s₁).emit tid (.admitted packet)).put s₂).emit tid
      (.lookedUp packet now found) =
        worldAfter w tid s₂ [.admitted packet, .lookedUp packet now found] := by
    rw [put_eq_worldAfter w tid]
    simp
  rw [hlooked] at hserve
  rcases found with _ | dump
  swap
  · -- the cache answers
    rw [segment_execute_admitted hadmission hserve, afterLookUp, liftExcept,
      segment_closing_done, worldAfter_worldAfter]
    exact .turnedAway (.cached hadmission hlookUp)
  have hmisses : Misses cfg packet w.state now s₂ := ⟨s₁, hadmission, hlookUp⟩
  rw [afterLookUp] at hserve
  rcases hguard : guardReplay packet s₂ with ⟨e | u, s₃⟩
  · -- the replay guard refuses the packet
    rw [Co.segment_bind_call_error hguard] at hserve
    rw [segment_execute_admitted (q := .done (.error e)) hadmission hserve, segment_closing_done]
    simp only [worldAfter_put, worldAfter_worldAfter]
    exact .turnedAway (.replayed hmisses hguard)
  rw [Co.segment_bind_call_ok hguard, worldAfter_put, afterGuard] at hserve
  rcases hdeadline : startDeadline cfg packet s₃ with ⟨e | deadline, s₄⟩
  · rw [Co.segment_bind_call_error hdeadline] at hserve
    rw [segment_execute_admitted (q := .done (.error e)) hadmission hserve, segment_closing_done]
    simp only [worldAfter_put, worldAfter_worldAfter]
    exact .turnedAway (.unstarted hmisses hguard hdeadline)
  · -- the work on the packet begins
    rw [Co.segment_bind_call_ok hdeadline, worldAfter_put] at hserve
    have hlog : worldAfter w tid s₄ (begunEvents packet now deadline) =
        (worldAfter w tid s₄ [.admitted packet, .lookedUp packet now none]).emit tid
          (.deadlineStarted packet deadline) := by
      simp [begunEvents]
    rw [segment_execute_admitted hadmission (q := (deadlineWork cfg packet deadline).handle
      (settle cfg packet)) (hserve.trans rfl), ← executing, ← hlog]
    exact .begins ⟨s₂, s₃, hmisses, hguard, hdeadline⟩

end ConstellationGate
