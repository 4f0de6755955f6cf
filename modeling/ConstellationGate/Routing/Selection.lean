import ConstellationGate.Routing.RegistryRuns

/-!
# Selection and capacity

Resolution prefers the least loaded candidate, and among equally loaded ones the candidate
with the smallest limit; admission (`increment_active`) compares the load of a node with its
own limit.  The two agree exactly when no least loaded candidate is full.
-/

namespace ConstellationGate

/-- The node can take one more request. -/
def NodeRegistration.HasRoom (r : NodeRegistration) : Prop := r.activeRequests < r.maxConcurrent

instance (r : NodeRegistration) : Decidable r.HasRoom := by
  unfold NodeRegistration.HasRoom
  infer_instance

namespace NodeRegistry

/-- The healthy registration advertises the action and no other one carries less load. -/
def LeastLoaded (reg : NodeRegistry) (action : String) (s : NodeRegistration) : Prop :=
  s ∈ reg.candidates (normalize action) ∧
    ∀ t ∈ reg.candidates (normalize action), s.activeRequests ≤ t.activeRequests

variable {reg : NodeRegistry} {action : String} {r : NodeRegistration}

lemma leastLoaded_of_resolveAction (h : reg.resolveAction action = .ok r) :
    reg.LeastLoaded action r := by
  obtain ⟨hmem, hpref⟩ := of_resolveAction h
  refine ⟨hmem, fun t ht => ?_⟩
  rcases hpref t ht with hlt | ⟨heq, -⟩
  · exact hlt.le
  · exact heq.le

/-- Among the least loaded candidates, one with the smallest limit is resolved. -/
lemma maxConcurrent_le_of_leastLoaded (h : reg.resolveAction action = .ok r)
    {s : NodeRegistration} (hs : reg.LeastLoaded action s) :
    r.activeRequests = s.activeRequests ∧ r.maxConcurrent ≤ s.maxConcurrent := by
  obtain ⟨hmem, hpref⟩ := of_resolveAction h
  rcases hpref s hs.1 with hlt | ⟨heq, hlt | ⟨heq', -⟩⟩
  · exact absurd (hs.2 r hmem) (Nat.not_le.2 hlt)
  · exact ⟨heq, hlt.le⟩
  · exact ⟨heq, heq'.le⟩

/-- A registration with room can take a request. -/
lemma incrementActive_of_hasRoom (hk : reg.Keyed) (hr : r ∈ reg.nodes.values) (hroom : r.HasRoom) :
    reg.incrementActive r.nodeName =
      (.ok (), ⟨reg.nodes.set r.nodeName (r.withActiveRequests (r.activeRequests + 1))⟩) := by
  obtain ⟨node, hget⟩ := Dict.mem_values_iff.1 hr
  obtain rfl := hk node r hget
  have hfree : ¬ r.maxConcurrent ≤ r.activeRequests := Nat.not_le.2 hroom
  simp [incrementActive, updateNode, r.nodeName_normalized, hget, hfree]

/-- The resolved registration has room exactly when every least loaded healthy one has; when
all healthy ones have the same limit, it has room as soon as one of them has; and when it
has room, `increment_active` on it succeeds. -/
theorem resolveAction_hasRoom_iff (h : reg.resolveAction action = .ok r) :
    (r.HasRoom ↔ ∀ s, reg.LeastLoaded action s → s.HasRoom) ∧
    ((∃ s ∈ reg.candidates (normalize action), s.HasRoom) →
      (∀ s ∈ reg.candidates (normalize action), ∀ t ∈ reg.candidates (normalize action),
        s.maxConcurrent = t.maxConcurrent) → r.HasRoom) ∧
    (reg.Keyed → r.HasRoom → (reg.incrementActive r.nodeName).1 = .ok ()) := by
  have hleast := leastLoaded_of_resolveAction h
  refine ⟨⟨fun hroom s hs => ?_, fun hall => hall r hleast⟩, ?_, fun hk hroom => ?_⟩
  · obtain ⟨hload, hmax⟩ := maxConcurrent_le_of_leastLoaded h hs
    rw [NodeRegistration.HasRoom, ← hload]
    exact lt_of_lt_of_le hroom hmax
  · rintro ⟨s, hs, hroom⟩ hsame
    have hload := hleast.2 s hs
    rw [NodeRegistration.HasRoom, hsame r hleast.1 s hs]
    exact lt_of_le_of_lt hload hroom
  · rw [incrementActive_of_hasRoom hk (mem_candidates.1 hleast.1).1 hroom]

/-- Two replicas of one action: a small one that is full and a large one with more load. -/
def unevenReplicas : NodeRegistry :=
  let replica (name : String) (limit : ℤ) : RegistrationPayload :=
    { internalUrl := "http://" ++ name, supportedActions := ["score"], maxConcurrent := limit }
  empty.run
    [.load (.mapping ((Dict.empty.set "a" (.payload (replica "a" 1))).set "b"
      (.payload (replica "b" 10)))),
     .node (.incrementActive "a"), .node (.incrementActive "b"), .node (.incrementActive "b")]

lemma unevenReplicas_resolve :
    ∃ r, unevenReplicas.resolveAction "score" = .ok r ∧ ¬ r.HasRoom := by
  have hany : (unevenReplicas.resolveAction "score").toOption.any
      (fun r => decide (¬ r.HasRoom)) = true := by decide +kernel
  obtain ⟨r, hr, hnot⟩ := exists_ok_of_any hany
  exact ⟨r, hr, of_decide_eq_true hnot⟩

/-- The characterisation at these replicas: the least loaded one is full. -/
theorem resolveAction_hasRoom_iff_uneven :
    ∃ r, unevenReplicas.resolveAction "score" = .ok r ∧
      (r.HasRoom ↔ ∀ s, unevenReplicas.LeastLoaded "score" s → s.HasRoom) := by
  obtain ⟨r, hr, -⟩ := unevenReplicas_resolve
  exact ⟨r, hr, (resolveAction_hasRoom_iff hr).1⟩

/-- A full node is resolved although another one has room. -/
theorem unevenReplicas_full :
    ¬ ∀ (reg : NodeRegistry) (action : String),
      (∃ s ∈ reg.candidates (normalize action), s.HasRoom) →
      ∀ r, reg.resolveAction action = .ok r → r.HasRoom := by
  intro h
  have hfree : ∃ s ∈ unevenReplicas.candidates (normalize "score"), s.HasRoom := by
    decide +kernel
  obtain ⟨r, hr, hnot⟩ := unevenReplicas_resolve
  exact hnot (h unevenReplicas "score" hfree r hr)

end NodeRegistry

end ConstellationGate
