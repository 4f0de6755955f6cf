import ConstellationGate.Errors
import ConstellationGate.Lib.Dict

/-!
# Per-node concurrency limits

`runtime/node_limits.py`: how many dispatches to each node hold a permit.  `acquire` takes
the permit and then yields to the event loop; `reserve` is its part before that await.
-/

namespace ConstellationGate

/-- The limits of the nodes and their active counts. -/
structure PerNodeLimiterManager where
  limits : Dict String ℕ
  active : Dict String ℕ
  /-- A node with a limit has a count. -/
  counted : ∀ node, limits.contains node = true → active.contains node = true

namespace PerNodeLimiterManager

/-- A manager that knows no node. -/
def empty : PerNodeLimiterManager := ⟨.empty, .empty, fun _ h => by simp at h⟩

variable (m : PerNodeLimiterManager)

/-- `active_count`. -/
def activeCount (nodeName : String) : ℕ := (m.active.get? (normalize nodeName)).getD 0

/-- Set a count of a node. -/
def withActive (node : String) (count : ℕ) : PerNodeLimiterManager where
  limits := m.limits
  active := m.active.set node count
  counted node' h := by
    rw [Dict.contains_set, m.counted node' h, Bool.or_true]

/-- `ensure_node_limit`: set the limit of a node and start its count. -/
def ensureNodeLimit (nodeName : String) (maxConcurrent : ℕ) :
    Except PyError Unit × PerNodeLimiterManager :=
  if normalize nodeName = "" then
    (.error { cls := .valueError, message := "node_name must not be empty" }, m)
  else if maxConcurrent < 1 then
    (.error { cls := .valueError, message := "max_concurrent must be >= 1" }, m)
  else
    let node := normalize nodeName
    (.ok (),
      { limits := m.limits.set node maxConcurrent
        active := m.active.set node ((m.active.get? node).getD 0)
        counted := fun node' h => by
          rw [Dict.contains_set] at h ⊢
          rcases Bool.or_eq_true_iff.1 h with h | h
          · rw [h, Bool.true_or]
          · rw [m.counted node' h, Bool.or_true] })

/-- The part of `acquire` before its await: count one more dispatch, unless the limit is reached. -/
def reserve (nodeName : String) : Except PyError Unit × PerNodeLimiterManager :=
  let node := normalize nodeName
  match m.limits.get? node with
  | none => (.error { cls := .lookupError, message := "node limit not configured: " ++ node }, m)
  | some limit =>
    let count := (m.active.get? node).getD 0
    if limit ≤ count then
      (.error { cls := .nodeLimitExceededError,
                message := "node concurrency limit reached: " ++ node }, m)
    else (.ok (), m.withActive node (count + 1))

/-- `release`; the count stops at zero. -/
def release (nodeName : String) : Except PyError Unit × PerNodeLimiterManager :=
  let node := normalize nodeName
  match m.active.get? node with
  | none => (.error { cls := .lookupError, message := "node limit not configured: " ++ node }, m)
  | some count => (.ok (), m.withActive node (count - 1))

/-! ### Counts -/

lemma activeCount_withActive (node : String) (count : ℕ) (nodeName : String) :
    (m.withActive node count).activeCount nodeName =
      if normalize nodeName = node then count else m.activeCount nodeName := by
  rw [activeCount, withActive, Dict.get?_set, activeCount]
  split <;> rfl

@[simp] lemma activeCount_ensureNodeLimit (nodeName : String) (maxConcurrent : ℕ) (node : String) :
    (m.ensureNodeLimit nodeName maxConcurrent).2.activeCount node = m.activeCount node := by
  unfold ensureNodeLimit
  split
  · rfl
  split
  · rfl
  · simp only [activeCount, Dict.get?_set]
    split
    · rename_i heq
      rw [heq]
      rfl
    · rfl

/-- What `reserve` does to the counts. -/
lemma reserve_cases (nodeName : String) :
    (m.reserve nodeName).1 = .ok () ∧
      (∀ node, (m.reserve nodeName).2.activeCount node =
        m.activeCount node + if normalize node = normalize nodeName then 1 else 0) ∨
    (∃ e, (m.reserve nodeName).1 = .error e) ∧ (m.reserve nodeName).2 = m := by
  rcases hlimit : m.limits.get? (normalize nodeName) with _ | limit
  · exact Or.inr ⟨⟨_, by simp only [reserve, hlimit]; rfl⟩, by simp only [reserve, hlimit]⟩
  by_cases hfull : limit ≤ (m.active.get? (normalize nodeName)).getD 0
  · exact Or.inr ⟨⟨_, by simp only [reserve, hlimit, if_pos hfull]; rfl⟩,
      by simp only [reserve, hlimit, if_pos hfull]⟩
  · refine Or.inl ⟨by simp only [reserve, hlimit, if_neg hfull], fun node => ?_⟩
    simp only [reserve, hlimit, if_neg hfull, activeCount_withActive]
    split
    · rename_i heq
      rw [activeCount, heq]
    · rfl

/-- What `release` does to the counts of a manager that knows the node. -/
lemma release_cases (nodeName : String) :
    (m.release nodeName).1 = .ok () ∧
      (∀ node, (m.release nodeName).2.activeCount node =
        m.activeCount node - if normalize node = normalize nodeName then 1 else 0) ∨
    m.activeCount nodeName = 0 ∧ (∃ e, (m.release nodeName).1 = .error e) ∧
      (m.release nodeName).2 = m := by
  rcases hcount : m.active.get? (normalize nodeName) with _ | count
  · exact Or.inr ⟨by rw [activeCount, hcount]; rfl, ⟨_, by simp only [release, hcount]; rfl⟩,
      by simp only [release, hcount]⟩
  · refine Or.inl ⟨by simp only [release, hcount], fun node => ?_⟩
    simp only [release, hcount, activeCount_withActive]
    split
    · rename_i heq
      rw [activeCount, heq, hcount]
      rfl
    · rfl

end PerNodeLimiterManager

end ConstellationGate
