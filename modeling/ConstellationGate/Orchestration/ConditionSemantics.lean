import ConstellationGate.Orchestration.ConditionEval

/-!
# Conditions as Python reads them

`python` is Python's own evaluation of an expression, with connectives and comparison chains that
stop early and yield an operand.  The evaluator differs from it in two ways: it evaluates the
operands that Python skips, and its connectives yield a bool.  `evaluate_eq_ok_iff` says that it
differs in no other way.
-/

namespace ConstellationGate

/-! ### Python's evaluation -/

/-- The truth value of an operand at which a connective stops. -/
def BoolOp.stop : BoolOp → Bool
  | and => false
  | or => true

variable (M : PyObjects)

mutual

/-- The value of an expression in Python.  Expressions outside the grammar of conditions are given
none here. -/
def python (names : Dict String M.Obj) : Expr M.Obj → Except PyError M.Obj
  | .constant value => .ok value
  | .name id =>
    match names.get? id with
    | none => .error { cls := .lookupError, message := id }
    | some value => .ok value
  | .boolOp op values => pythonOperands names op values
  | .unaryOp op operand =>
    match op with
    | .not =>
      python names operand >>= fun value => M.bool value >>= fun b => .ok (M.ofBool !b)
    | _ => .error { cls := .typeError }
  | .compare left comparators =>
    python names left >>= fun left => pythonChain names left comparators
  | .subscript value slice =>
    python names value >>= fun value => python names slice >>= fun key => M.getItem value key
  | .binOp left op right =>
    python names left >>= fun left => python names right >>= fun right => M.binOp op left right
  | .list elts => pythonList names elts >>= fun elts => .ok (M.list elts)
  | .tuple elts => pythonList names elts >>= fun elts => .ok (M.tuple elts)
  | .dict items =>
    pythonItems names items >>= fun items =>
      items.foldlM (fun d item => M.setItem d item.1 item.2) M.emptyDict
  | .other _ _ => .error { cls := .typeError }

/-- The first operand at which the connective stops, or the last. -/
def pythonOperands (names : Dict String M.Obj) (op : BoolOp) :
    List (Expr M.Obj) → Except PyError M.Obj
  | [] => .error { cls := .typeError }
  | value :: rest =>
    python names value >>= fun value =>
      if rest.isEmpty then .ok value
      else
        M.bool value >>= fun b =>
          if b = op.stop then .ok value else pythonOperands names op rest

/-- The first comparison that is false, or the last. -/
def pythonChain (names : Dict String M.Obj) (left : M.Obj) :
    List (CmpOp × Expr M.Obj) → Except PyError M.Obj
  | [] => .error { cls := .typeError }
  | (op, comparator) :: rest =>
    python names comparator >>= fun right =>
      M.compare op left right >>= fun result =>
        if rest.isEmpty then .ok result
        else
          M.bool result >>= fun b =>
            if b then pythonChain names right rest else .ok result

/-- The elements of a display, from left to right. -/
def pythonList (names : Dict String M.Obj) : List (Expr M.Obj) → Except PyError (List M.Obj)
  | [] => .ok []
  | elt :: elts =>
    python names elt >>= fun elt => pythonList names elts >>= fun elts => .ok (elt :: elts)

/-- The items of a dictionary display, from left to right, each key before its value. -/
def pythonItems (names : Dict String M.Obj) :
    List (Option (Expr M.Obj) × Expr M.Obj) → Except PyError (List (M.Obj × M.Obj))
  | [] => .ok []
  | (none, _) :: _ => .error { cls := .typeError }
  | (some key, value) :: rest =>
    python names key >>= fun key =>
      python names value >>= fun value =>
        pythonItems names rest >>= fun rest => .ok ((key, value) :: rest)

end

/-! ### What Python evaluates -/

section Evaluated

variable {M} (names : Dict String M.Obj)

/-- The operands of a connective that Python evaluates. -/
def evaluatedOperands (op : BoolOp) : List (Expr M.Obj) → List (Expr M.Obj)
  | [] => []
  | value :: rest =>
    value ::
      match python M names value >>= M.bool with
      | .ok b => if b = op.stop then [] else evaluatedOperands op rest
      | .error _ => []

/-- The comparators of a chain that Python evaluates. -/
def evaluatedComparators (left : M.Obj) : List (CmpOp × Expr M.Obj) → List (Expr M.Obj)
  | [] => []
  | (op, comparator) :: rest =>
    comparator ::
      match python M names comparator with
      | .error _ => []
      | .ok right =>
        match M.compare op left right >>= M.bool with
        | .ok true => evaluatedComparators right rest
        | _ => []

/-- The expressions directly under a node that Python evaluates when it evaluates the node. -/
def evaluated : Expr M.Obj → List (Expr M.Obj)
  | .boolOp op values => evaluatedOperands names op values
  | .compare left comparators =>
    left ::
      match python M names left with
      | .error _ => []
      | .ok left => evaluatedComparators names left comparators
  | e => e.children

/-- The nodes of a tree that Python evaluates. -/
def Evaluates (e n : Expr M.Obj) : Prop :=
  Relation.ReflTransGen (fun parent child => child ∈ evaluated names parent) e n

/-- `and`, `or` and comparisons. -/
def Expr.isConnective {Obj : Type} : Expr Obj → Bool
  | .boolOp _ _ | .compare _ _ => true
  | _ => false

/-- A node whose value is a bool when it is used for more than its truth. -/
def YieldsBool (e : Expr M.Obj) : Prop :=
  e.isConnective = true → ∀ v, python M names e = .ok v → ∃ b, v = M.ofBool b

/-- The connectives and comparisons that a node uses for more than their truth yield bools. -/
def UsesBools : Expr M.Obj → Prop
  | .boolOp _ _ | .unaryOp _ _ => True
  | e => ∀ c ∈ evaluated names e, YieldsBool names c

/-- The evaluator raises at no operand of a connective and at no comparator of a chain. -/
def Settles : Expr M.Obj → Prop
  | .boolOp _ values => ∀ c ∈ values,
      ∃ u b, SafeConditionEvaluator.eval M names c = .ok u ∧ M.bool u = .ok b
  | .compare _ comparators => ∀ link ∈ comparators,
      ∃ u, SafeConditionEvaluator.eval M names link.2 = .ok u
  | _ => True

end Evaluated

/-! ### The two evaluations -/

section Agreement

open SafeConditionEvaluator

variable {M} {names : Dict String M.Obj}

/-- What the evaluator makes of an expression that has a value in Python. -/
def Agrees (names : Dict String M.Obj) (e : Expr M.Obj) : Prop :=
  ∀ v, python M names e = .ok v →
    if e.isConnective then ∀ b, M.bool v = .ok b → eval M names e = .ok (M.ofBool b)
    else eval M names e = .ok v

/-- An expression that is used for its value. -/
lemma Agrees.used {e : Expr M.Obj} (h : Agrees names e) (hbool : YieldsBool names e) {v : M.Obj}
    (hv : python M names e = .ok v) : eval M names e = .ok v := by
  have hagrees := h v hv
  split at hagrees
  · -- a connective yields the bool that is its truth
    obtain ⟨b, rfl⟩ := hbool ‹_› v hv
    exact hagrees b (M.bool_ofBool b)
  · exact hagrees

/-- An expression that is used for its truth. -/
lemma Agrees.tested {e : Expr M.Obj} (h : Agrees names e) {v : M.Obj} {b : Bool}
    (hv : python M names e = .ok v) (hb : M.bool v = .ok b) :
    ∃ u, eval M names e = .ok u ∧ M.bool u = .ok b := by
  have hagrees := h v hv
  split at hagrees
  · exact ⟨M.ofBool b, hagrees b hb, M.bool_ofBool b⟩
  · exact ⟨v, hagrees, hb⟩

lemma combine_cons (op : BoolOp) (b : Bool) (bs : List Bool) :
    op.combine (b :: bs) = if b = op.stop then op.stop else op.combine bs := by
  cases op <;> cases b <;> rfl

lemma combine_singleton (op : BoolOp) (b : Bool) : op.combine [b] = b := by
  cases op <;> cases b <;> rfl

/-- The operands of a connective, each with its truth. -/
lemma evalTruths_of_python {op : BoolOp} {values : List (Expr M.Obj)} {v : M.Obj} {b : Bool}
    (hagree : ∀ c ∈ evaluatedOperands names op values, Agrees names c)
    (hsettle : ∀ c ∈ values, ∃ u b, eval M names c = .ok u ∧ M.bool u = .ok b)
    (hv : pythonOperands M names op values = .ok v) (hb : M.bool v = .ok b) :
    ∃ bs, evalTruths M names values = .ok bs ∧ op.combine bs = b := by
  induction values with
  | nil =>
    rw [pythonOperands] at hv
    cases hv
  | cons value rest ih =>
    rw [evaluatedOperands, List.forall_mem_cons] at hagree
    rw [List.forall_mem_cons] at hsettle
    rw [pythonOperands, bind_ok_iff] at hv
    obtain ⟨w, hw, hv⟩ := hv
    obtain ⟨bs, hbs⟩ := exists_evalTruths_iff.2 hsettle.2
    by_cases hrest : rest = []
    · -- the last operand
      subst hrest
      obtain rfl : w = v := by simpa using hv
      obtain ⟨u, hu, hub⟩ := hagree.1.tested hw hb
      refine ⟨[b], ?_, combine_singleton op b⟩
      simp [evalTruths, hu, hub, bind, Except.bind]
    rw [if_neg (by simpa using hrest), bind_ok_iff] at hv
    obtain ⟨b', hb', hv⟩ := hv
    obtain ⟨u, hu, hub⟩ := hagree.1.tested hw hb'
    by_cases hstop : b' = op.stop
    · -- Python stops here, the evaluator goes on
      rw [if_pos hstop, Except.ok.injEq] at hv
      subst hv
      obtain rfl : b' = b := by
        rw [hb'] at hb
        exact Except.ok.inj hb
      refine ⟨b' :: bs, ?_, ?_⟩
      · simp [evalTruths, hu, hub, hbs, bind, Except.bind]
      · rw [combine_cons, if_pos hstop, hstop]
    · rw [if_neg hstop] at hv
      have hagree' : ∀ c ∈ evaluatedOperands names op rest, Agrees names c := by
        have hmatch := hagree.2
        rw [hw] at hmatch
        simp only [bind, Except.bind, hb', if_neg hstop] at hmatch
        exact hmatch
      obtain ⟨bs', hbs', hcombine⟩ := ih hagree' hsettle.2 hv
      refine ⟨b' :: bs', ?_, ?_⟩
      · simp [evalTruths, hu, hub, hbs', bind, Except.bind]
      · rw [combine_cons, if_neg hstop, hcombine]

/-- After a false comparison the evaluator only evaluates the comparators. -/
lemma evalChain_false {left : M.Obj} {rest : List (CmpOp × Expr M.Obj)}
    (hops : ∀ link ∈ rest, link.1 ∈ allowedCompareOps)
    (hsettle : ∀ link ∈ rest, ∃ u, eval M names link.2 = .ok u) :
    evalChain M names false left rest = .ok false := by
  induction rest generalizing left with
  | nil => rfl
  | cons link rest ih =>
    rw [List.forall_mem_cons] at hops hsettle
    obtain ⟨right, hright⟩ := hsettle.1
    have hrest : evalChain M names false right rest = .ok false := ih hops.2 hsettle.2
    simp [evalChain, hops.1, hright, hrest, bind, Except.bind]

lemma applyCompare_eq {op : CmpOp} (hop : op ∈ allowedCompareOps) (left right : M.Obj) :
    applyCompare M op left right = M.compare op left right >>= M.bool := by
  cases op <;> first | rfl | simp [allowedCompareOps] at hop

/-- A chain of comparisons. -/
lemma evalChain_of_python {left : M.Obj} {rest : List (CmpOp × Expr M.Obj)} {v : M.Obj} {b : Bool}
    (huse : ∀ c ∈ evaluatedComparators names left rest, ∀ w, python M names c = .ok w →
      eval M names c = .ok w)
    (hops : ∀ link ∈ rest, link.1 ∈ allowedCompareOps)
    (hsettle : ∀ link ∈ rest, ∃ u, eval M names link.2 = .ok u)
    (hv : pythonChain M names left rest = .ok v) (hb : M.bool v = .ok b) :
    evalChain M names true left rest = .ok b := by
  induction rest generalizing left with
  | nil =>
    rw [pythonChain] at hv
    cases hv
  | cons link rest ih =>
    obtain ⟨op, comparator⟩ := link
    rw [evaluatedComparators, List.forall_mem_cons] at huse
    rw [List.forall_mem_cons] at hops hsettle
    simp only [pythonChain, bind_ok_iff] at hv
    obtain ⟨right, hright, result, hresult, hv⟩ := hv
    have hcomparator := huse.1 right hright
    have hstep : ∀ b', M.bool result = .ok b' →
        evalChain M names true left ((op, comparator) :: rest) =
          evalChain M names b' right rest := by
      intro b' hb'
      have happly : applyCompare M op left right = .ok b' := by
        rw [applyCompare_eq hops.1, hresult]
        exact hb'
      simp [evalChain, hops.1, hcomparator, happly, bind, Except.bind]
    by_cases hrest : rest = []
    · subst hrest
      obtain rfl : result = v := by simpa using hv
      rw [hstep b hb, evalChain]
    rw [if_neg (by simpa using hrest), bind_ok_iff] at hv
    obtain ⟨b', hb', hv⟩ := hv
    rw [hstep b' hb']
    cases b' with
    | false =>
      -- Python stops here, the evaluator goes on
      obtain rfl : result = v := by simpa using hv
      obtain rfl : false = b := by
        rw [hb'] at hb
        exact Except.ok.inj hb
      exact evalChain_false hops.2 hsettle.2
    | true =>
      refine ih ?_ hops.2 hsettle.2 hv
      have hmatch := huse.2
      rw [hright] at hmatch
      simp only [hresult, bind, Except.bind, hb'] at hmatch
      exact hmatch

lemma evalList_of_python {elts : List (Expr M.Obj)} {vs : List M.Obj}
    (huse : ∀ c ∈ elts, ∀ w, python M names c = .ok w → eval M names c = .ok w)
    (hvs : pythonList M names elts = .ok vs) : evalList M names elts = .ok vs := by
  induction elts generalizing vs with
  | nil => exact hvs
  | cons elt elts ih =>
    rw [List.forall_mem_cons] at huse
    simp only [pythonList, bind_ok_iff] at hvs
    obtain ⟨w, hw, ws, hws, hvs⟩ := hvs
    simp only [evalList, bind_ok_iff]
    exact ⟨w, huse.1 w hw, ws, ih huse.2 hws, hvs⟩

/-- A dictionary display: the evaluator stores each item at once. -/
lemma evalItems_of_python {items : List (Option (Expr M.Obj) × Expr M.Obj)}
    {pairs : List (M.Obj × M.Obj)} {d v : M.Obj}
    (huse : ∀ item ∈ items, ∀ c ∈ item.1.toList ++ [item.2], ∀ w, python M names c = .ok w →
      eval M names c = .ok w)
    (hpairs : pythonItems M names items = .ok pairs)
    (hv : pairs.foldlM (fun d item => M.setItem d item.1 item.2) d = .ok v) :
    evalItems M names d items = .ok v := by
  induction items generalizing pairs d with
  | nil =>
    obtain rfl : [] = pairs := Except.ok.inj hpairs
    exact hv
  | cons item items ih =>
    rw [List.forall_mem_cons] at huse
    obtain ⟨_ | key, value⟩ := item
    · rw [pythonItems] at hpairs
      cases hpairs
    · simp only [pythonItems, bind_ok_iff, Except.ok.injEq] at hpairs
      obtain ⟨k, hk, w, hw, rest, hrest, rfl⟩ := hpairs
      rw [List.foldlM_cons, bind_ok_iff] at hv
      obtain ⟨d', hd', hv⟩ := hv
      simp only [evalItems, bind_ok_iff]
      exact ⟨w, huse.1 value (by simp) w hw, k, huse.1 key (by simp) k hk, d', hd',
        ih huse.2 hrest hv⟩

lemma mem_children_of_mem_evaluated {e c : Expr M.Obj} (h : c ∈ evaluated names e) :
    c ∈ e.children := by
  have hoperands : ∀ (op : BoolOp) (values : List (Expr M.Obj)),
      evaluatedOperands names op values ⊆ values := by
    intro op values
    induction values with
    | nil => exact List.Subset.refl _
    | cons value rest ih =>
      rw [evaluatedOperands]
      refine List.cons_subset_cons _ ?_
      split
      · split
        · exact List.nil_subset _
        · exact ih
      · exact List.nil_subset _
  have hcomparators : ∀ (rest : List (CmpOp × Expr M.Obj)) (left : M.Obj),
      evaluatedComparators names left rest ⊆ rest.map Prod.snd := by
    intro rest
    induction rest with
    | nil => exact fun _ => List.Subset.refl _
    | cons link rest ih =>
      intro left
      obtain ⟨op, comparator⟩ := link
      rw [evaluatedComparators]
      refine List.cons_subset_cons _ ?_
      split
      · exact List.nil_subset _
      · split
        · exact ih _
        · exact List.nil_subset _
  cases e with
  | boolOp op values => exact hoperands op values h
  | compare left comparators =>
    refine List.mem_cons.2 ((List.mem_cons.1 h).imp id fun h => ?_)
    split at h
    · cases h
    · exact hcomparators _ _ h
  | _ => exact h

/-- An expression of the grammar that uses bools and whose operands settle. -/
structure Tame (names : Dict String M.Obj) (e : Expr M.Obj) : Prop where
  whitelisted : ∀ n, e.Node n → n.Whitelisted
  usesBools : ∀ n, Evaluates names e n → UsesBools names n
  settles : ∀ n, e.Node n → Settles names n

lemma Tame.child {e c : Expr M.Obj} (h : Tame names e) (hc : c ∈ evaluated names e) :
    Tame names c := by
  have hchild := mem_children_of_mem_evaluated hc
  refine ⟨fun n hn => h.whitelisted n (.head hchild hn), fun n hn => h.usesBools n (.head hc hn),
    fun n hn => h.settles n (.head hchild hn)⟩

lemma Tame.used {e : Expr M.Obj} (h : Tame names e)
    (hchildren : ∀ c ∈ evaluated names e, Agrees names c)
    (hother : UsesBools names e → ∀ c ∈ evaluated names e, YieldsBool names c) :
    ∀ c ∈ evaluated names e, ∀ w, python M names c = .ok w → eval M names c = .ok w :=
  fun c hc _ hw => (hchildren c hc).used (hother (h.usesBools e .refl) c hc) hw

/-- The evaluator agrees with Python on a tame expression. -/
lemma Tame.agrees {e : Expr M.Obj} (h : Tame names e) : Agrees names e := by
  induction e using Expr.induction_children with
  | _ e ih =>
    have hchildren : ∀ c ∈ evaluated names e, Agrees names c := fun c hc =>
      ih c (mem_children_of_mem_evaluated hc) (h.child hc)
    have hwhite := h.whitelisted e .refl
    have hsettle := h.settles e .refl
    intro v hv
    cases e with
    | constant value => simpa [Expr.isConnective, python, eval] using hv
    | name id =>
      rw [python] at hv
      split at hv
      · cases hv
      · rename_i value hget
        simpa [Expr.isConnective, eval, hget] using hv
    | boolOp op values =>
      rw [Expr.isConnective, if_pos rfl]
      intro b hb
      obtain ⟨bs, hbs, hcombine⟩ := evalTruths_of_python hchildren hsettle hv hb
      simp only [eval, guard_ok_iff, not_not, bind_ok_iff, Except.ok.injEq]
      exact ⟨hwhite, bs, hbs, by rw [hcombine]⟩
    | unaryOp op operand =>
      obtain rfl : op = .not := hwhite
      simp only [python, bind_ok_iff, Except.ok.injEq] at hv
      obtain ⟨w, hw, b, hb, rfl⟩ := hv
      have hagrees : Agrees names operand :=
        hchildren operand (by simp [evaluated, Expr.children])
      obtain ⟨u, hu, hub⟩ := hagrees.tested hw hb
      simp [Expr.isConnective, eval, allowedUnaryOps, hu, hub, bind, Except.bind]
    | compare left comparators =>
      have huse := h.used hchildren fun h => h
      rw [Expr.isConnective, if_pos rfl]
      intro b hb
      simp only [python, bind_ok_iff] at hv
      obtain ⟨l, hl, hv⟩ := hv
      rw [evaluated, hl, List.forall_mem_cons] at huse
      have hchain := evalChain_of_python huse.2 hwhite hsettle hv hb
      simp only [eval, bind_ok_iff, Except.ok.injEq]
      exact ⟨l, huse.1 l hl, b, hchain, rfl⟩
    | subscript value slice =>
      have huse := h.used hchildren fun h => h
      simp only [python, bind_ok_iff] at hv
      obtain ⟨w, hw, k, hk, hv⟩ := hv
      rw [if_neg (by simp [Expr.isConnective])]
      simp only [eval, bind_ok_iff]
      exact ⟨w, huse value (by simp [evaluated, Expr.children]) w hw, k,
        huse slice (by simp [evaluated, Expr.children]) k hk, hv⟩
    | binOp left op right =>
      have huse := h.used hchildren fun h => h
      simp only [python, bind_ok_iff] at hv
      obtain ⟨l, hl, r, hr, hv⟩ := hv
      have happly : applyBinop M op l r = M.binOp op l r := by
        have hop : op ∈ allowedBinOps := hwhite
        cases op <;> first | rfl | simp [allowedBinOps] at hop
      rw [if_neg (by simp [Expr.isConnective])]
      simp only [eval, guard_ok_iff, not_not, bind_ok_iff]
      exact ⟨hwhite, l, huse left (by simp [evaluated, Expr.children]) l hl, r,
        huse right (by simp [evaluated, Expr.children]) r hr, happly.trans hv⟩
    | list elts =>
      have huse := h.used hchildren fun h => h
      simp only [python, bind_ok_iff, Except.ok.injEq] at hv
      obtain ⟨vs, hvs, rfl⟩ := hv
      rw [if_neg (by simp [Expr.isConnective])]
      simp only [eval, bind_ok_iff, Except.ok.injEq]
      exact ⟨vs, evalList_of_python huse hvs, rfl⟩
    | tuple elts =>
      have huse := h.used hchildren fun h => h
      simp only [python, bind_ok_iff, Except.ok.injEq] at hv
      obtain ⟨vs, hvs, rfl⟩ := hv
      rw [if_neg (by simp [Expr.isConnective])]
      simp only [eval, bind_ok_iff, Except.ok.injEq]
      exact ⟨vs, evalList_of_python huse hvs, rfl⟩
    | dict items =>
      have huse := h.used hchildren fun h => h
      simp only [python, bind_ok_iff] at hv
      obtain ⟨pairs, hpairs, hv⟩ := hv
      rw [if_neg (by simp [Expr.isConnective]), eval]
      exact evalItems_of_python
        (fun item hitem c hc => huse c (List.mem_flatMap.2 ⟨item, hitem, hc⟩)) hpairs hv
    | other kind parts => exact absurd hwhite id

lemma usesBools_of_children {n : Expr M.Obj} (h : ∀ c ∈ n.children, c.isConnective = false) :
    UsesBools names n := by
  cases n with
  | boolOp op values => trivial
  | unaryOp op operand => trivial
  | _ =>
    intro c hc hconnective
    rw [h c (mem_children_of_mem_evaluated hc)] at hconnective
    cases hconnective

/-- Where the evaluator returns, its operands settle. -/
lemma settles_of_eval {context : ConditionContext} {e n : Expr M.Obj} (hn : e.Node n) {v : M.Obj}
    (h : eval M (SafeConditionEvaluator.names M context) e = .ok v) :
    Settles (SafeConditionEvaluator.names M context) n := by
  obtain ⟨u, hu⟩ := eval_of_node hn h
  cases n with
  | boolOp op values =>
    simp only [eval, guard_ok_iff, bind_ok_iff] at hu
    obtain ⟨-, bs, hbs, -⟩ := hu
    exact exists_evalTruths_iff.1 ⟨bs, hbs⟩
  | compare left comparators =>
    simp only [eval, bind_ok_iff] at hu
    obtain ⟨l, -, b, hb, -⟩ := hu
    exact fun link hlink => (visited_of_evalChain hb link hlink).2
  | _ => trivial

end Agreement

open SafeConditionEvaluator in
/-- When Python's own evaluation of a condition yields a value with the truth `b`, and every `and`,
`or` and comparison that it uses for more than its truth yields a bool, then the evaluator returns
nothing but `b`; and it returns exactly when no operand of an `and` or `or` and no comparator
raises, also of those that Python skips. -/
theorem evaluate_eq_ok_iff (M : PyObjects) (parse : String → Except PyError (Expr M.Obj))
    (expression : String) (context : ConditionContext) (body : Expr M.Obj) (v : M.Obj) (b : Bool)
    (hparse : parse expression = .ok body) (hgrammar : ∀ n, body.Node n → n.Whitelisted)
    (hpython : python M (names M context) body = .ok v) (htruth : M.bool v = .ok b)
    (hbools : ∀ n, Evaluates (names M context) body n → UsesBools (names M context) n) :
    (∀ b', evaluate M parse expression context = .ok b' → b' = b) ∧
      (evaluate M parse expression context = .ok b ↔
        ∀ n, body.Node n → Settles (names M context) n) := by
  have hreturns : (∀ n, body.Node n → Settles (names M context) n) →
      evaluate M parse expression context = .ok b := by
    intro hsettles
    have htame : Tame (names M context) body := ⟨hgrammar, hbools, hsettles⟩
    obtain ⟨u, hu, hub⟩ := htame.agrees.tested hpython htruth
    simp only [evaluate, bind_ok_iff]
    exact ⟨body, hparse, u, hu, hub⟩
  have hsettles : ∀ b', evaluate M parse expression context = .ok b' →
      ∀ n, body.Node n → Settles (names M context) n := by
    intro b' h n hn
    simp only [evaluate, bind_ok_iff] at h
    obtain ⟨body', hbody', u, hu, -⟩ := h
    obtain rfl : body = body' := by simpa [hparse] using hbody'
    exact settles_of_eval hn hu
  refine ⟨fun b' h => ?_, fun h => hsettles b h, hreturns⟩
  have hb := hreturns (hsettles b' h)
  rw [h] at hb
  exact Except.ok.inj hb

/-- A condition with a guard, and its syntax tree. -/
def guardedScore : String × Expr Value :=
  ("response != None and response['score'] >= 70",
    .boolOp .and
      [.compare (.name "response") [(.notEq, .constant .none)],
      .compare (.subscript (.name "response") (.constant (.str "score")))
        [(.gtE, .constant (.int 70))]])

/-- A condition that uses the value of an `or`, and its syntax tree. -/
def scoreOfEither : String × Expr Value :=
  ("(response or payload)['score'] >= 70",
    .compare (.subscript (.boolOp .or [.name "response", .name "payload"])
      (.constant (.str "score"))) [(.gtE, .constant (.int 70))])

/-- What a condition of the first step of a workflow sees: there is no response yet. -/
def firstStep : ConditionContext where
  payload := Dict.empty.set "score" (.int 88)
  response := none
  action := "score"
  accumulated := Dict.empty.set "score" (.int 88)

/-- What a condition of the next step sees. -/
def secondStep : ConditionContext :=
  { firstStep with response := some (Dict.empty.set "score" (.int 88)) }

section Example

open SafeConditionEvaluator

lemma guardedScore_whitelisted (n : Expr Value) (hn : guardedScore.2.Node n) : n.Whitelisted := by
  -- with a response the evaluator visits every node
  have heval : eval .ofValues (names .ofValues secondStep) guardedScore.2 = .ok (.bool true) := rfl
  obtain ⟨u, hu⟩ := eval_of_node (M := .ofValues) hn heval
  exact (visited_of_eval (M := .ofValues) hu).1

/-- The condition uses no connective for its value. -/
lemma guardedScore_usesBools (n : Expr Value)
    (hn : Evaluates (M := .ofValues) (names .ofValues secondStep) guardedScore.2 n) :
    UsesBools (M := .ofValues) (names .ofValues secondStep) n := by
  have hnode : guardedScore.2.Node n :=
    Relation.ReflTransGen.mono
      (fun _ _ hc => mem_children_of_mem_evaluated (M := .ofValues) hc) _ _ hn
  have hleaf : ∀ {e : Expr Value}, e.children = [] → e.Node n → n = e := by
    intro e hchildren hnode
    rcases hnode.cases_head with rfl | ⟨c, hc, -⟩
    · rfl
    · rw [hchildren] at hc
      cases hc
  rcases hnode.cases_head with rfl | ⟨c, hc, hnode⟩
  · trivial
  -- a comparison, or something under it
  refine usesBools_of_children (M := .ofValues) fun c' hc' => ?_
  rcases List.mem_pair.1 hc with rfl | rfl
  · rcases hnode.cases_head with rfl | ⟨c, hc, hnode⟩
    · rcases List.mem_pair.1 hc' with rfl | rfl <;> rfl
    · rcases List.mem_pair.1 hc with rfl | rfl <;>
      · rw [hleaf rfl hnode] at hc'
        cases hc'
  · rcases hnode.cases_head with rfl | ⟨c, hc, hnode⟩
    · rcases List.mem_pair.1 hc' with rfl | rfl <;> rfl
    · rcases List.mem_pair.1 hc with rfl | rfl
      · rcases hnode.cases_head with rfl | ⟨c, hc, hnode⟩
        · rcases List.mem_pair.1 hc' with rfl | rfl <;> rfl
        · rcases List.mem_pair.1 hc with rfl | rfl <;>
          · rw [hleaf rfl hnode] at hc'
            cases hc'
      · rw [hleaf rfl hnode] at hc'
        cases hc'

/-- With a response nothing raises, and the evaluator returns what Python does. -/
theorem evaluate_guardedScore :
    (∀ b', evaluate .ofValues (parseOnly guardedScore) guardedScore.1 secondStep = .ok b' →
        b' = true) ∧
      (evaluate .ofValues (parseOnly guardedScore) guardedScore.1 secondStep = .ok true ↔
        ∀ n, guardedScore.2.Node n → Settles (M := .ofValues) (names .ofValues secondStep) n) :=
  evaluate_eq_ok_iff .ofValues (parseOnly guardedScore) guardedScore.1 secondStep guardedScore.2
    (.bool true) true rfl guardedScore_whitelisted rfl rfl guardedScore_usesBools

/-- Without a response Python's `and` guards the subscript, and the evaluator raises; and where
Python's `or` yields its operand, the evaluator has a bool. -/
theorem guard_unprotected :
    (¬ ∀ (M : PyObjects) (parse : String → Except PyError (Expr M.Obj)) (expression : String)
      (context : ConditionContext) (body : Expr M.Obj) (v : M.Obj),
      parse expression = .ok body → (∀ n, body.Node n → n.Whitelisted) →
        python M (names M context) body = .ok v →
          evaluate M parse expression context = M.bool v) ∧
    python .ofValues (names .ofValues secondStep) scoreOfEither.2 = .ok (.bool true) ∧
    evaluate .ofValues (parseOnly scoreOfEither) scoreOfEither.1 secondStep =
      .error { cls := .typeError, message := "'bool' object is not subscriptable" } := by
  refine ⟨fun h => ?_, rfl, rfl⟩
  have heq := h .ofValues (parseOnly guardedScore) guardedScore.1 firstStep guardedScore.2
    (.bool false) rfl guardedScore_whitelisted rfl
  have hraises : evaluate .ofValues (parseOnly guardedScore) guardedScore.1 firstStep =
      .error { cls := .typeError, message := "'NoneType' object is not subscriptable" } := rfl
  rw [hraises] at heq
  cases heq

end Example

end ConstellationGate
