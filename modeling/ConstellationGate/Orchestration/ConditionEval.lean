import ConstellationGate.Config
import Mathlib.Logic.Relation

/-!
# The condition evaluator

`orchestration/condition_eval.py`.  An expression is what `ast.parse` makes of the text of a
condition (`Expr`); the evaluator has a branch for ten kinds of expressions and raises at any
other kind.  Python's objects, their operators and their displays are a parameter (`PyObjects`).
-/

namespace ConstellationGate

/-! ### Syntax trees -/

/-- `ast.boolop`. -/
inductive BoolOp
  | and | or
deriving DecidableEq

/-- `all` or `any`. -/
def BoolOp.combine : BoolOp → List Bool → Bool
  | and, values => values.all id
  | or, values => values.any id

/-- `ast.unaryop`. -/
inductive UnaryOp
  | invert | not | uAdd | uSub
deriving DecidableEq

/-- `ast.operator`. -/
inductive Operator
  | add | sub | mult | matMult | div | mod | pow | lShift | rShift | bitOr | bitXor | bitAnd
  | floorDiv
deriving DecidableEq

/-- `ast.cmpop`. -/
inductive CmpOp
  | eq | notEq | lt | ltE | gt | gtE | is | isNot | isIn | notIn
deriving DecidableEq

/-- The kinds of expressions for which the evaluator has no branch. -/
inductive OtherSyntax
  | namedExpr | lambda | ifExp | set | listComp | setComp | dictComp | generatorExp | await
  | yield | yieldFrom | call | formattedValue | joinedStr | attribute | starred | slice
deriving DecidableEq

/-- The name of the class. -/
def OtherSyntax.name : OtherSyntax → String
  | .namedExpr => "NamedExpr"
  | .lambda => "Lambda"
  | .ifExp => "IfExp"
  | .set => "Set"
  | .listComp => "ListComp"
  | .setComp => "SetComp"
  | .dictComp => "DictComp"
  | .generatorExp => "GeneratorExp"
  | .await => "Await"
  | .yield => "Yield"
  | .yieldFrom => "YieldFrom"
  | .call => "Call"
  | .formattedValue => "FormattedValue"
  | .joinedStr => "JoinedStr"
  | .attribute => "Attribute"
  | .starred => "Starred"
  | .slice => "Slice"

/-- `ast.expr`, with constants in `Obj`.  An operator of a comparison stands with the comparator
that follows it, a key of a dictionary display with its value; a display without a key there
unpacks the value. -/
inductive Expr (Obj : Type) : Type
  | constant (value : Obj)
  | name (id : String)
  | boolOp (op : BoolOp) (values : List (Expr Obj))
  | unaryOp (op : UnaryOp) (operand : Expr Obj)
  | compare (left : Expr Obj) (comparators : List (CmpOp × Expr Obj))
  | subscript (value slice : Expr Obj)
  | binOp (left : Expr Obj) (op : Operator) (right : Expr Obj)
  | list (elts : List (Expr Obj))
  | tuple (elts : List (Expr Obj))
  | dict (items : List (Option (Expr Obj) × Expr Obj))
  /-- Any other expression, with the expressions in it. -/
  | other (kind : OtherSyntax) (parts : List (Expr Obj))

/-- Python's objects, as far as conditions use them.  An operation may raise. -/
structure PyObjects where
  Obj : Type
  ofNone : Obj
  ofBool : Bool → Obj
  ofStr : String → Obj
  /-- A payload, a dictionary with strings as keys. -/
  ofPayload : Dict String Value → Obj
  /-- `bool(x)`. -/
  bool : Obj → Except PyError Bool
  /-- `x == y`, `x < y`, `x in y`, … -/
  compare : CmpOp → Obj → Obj → Except PyError Obj
  /-- `x + y`, `x - y`, … -/
  binOp : Operator → Obj → Obj → Except PyError Obj
  /-- `x[key]`. -/
  getItem : Obj → Obj → Except PyError Obj
  list : List Obj → Obj
  tuple : List Obj → Obj
  emptyDict : Obj
  /-- `d[key] = value`, as the dictionary after it. -/
  setItem : Obj → Obj → Obj → Except PyError Obj
  bool_ofBool : ∀ b, bool (ofBool b) = .ok b

namespace Value

/-- `bool(x)` of a value. -/
def truth : Value → Bool
  | .none => false
  | .bool b => b
  | .int n => decide (n ≠ 0)
  -- the zeros of both signs
  | .float bits => decide (bits ≠ 0 ∧ bits ≠ 0x8000000000000000)
  | .str s => decide (s ≠ "")
  | .list items => !items.isEmpty
  | .dict entries => !entries.isEmpty

/-- Comparisons of values, of those kinds that the examples below compare. -/
def compare : CmpOp → Value → Value → Except PyError Value
  | .eq, .str s, .str t => .ok (.bool (decide (s = t)))
  | .gtE, .int m, .int n => .ok (.bool (decide (n ≤ m)))
  | .notEq, .none, .none => .ok (.bool false)
  | .notEq, _, .none => .ok (.bool true)
  | _, _, _ => .error { cls := .typeError }

/-- `x[key]` of a value. -/
def getItem : Value → Value → Except PyError Value
  | .dict entries, .str key =>
    match Dict.find entries key with
    | .some value => .ok value
    | .none => .error { cls := .lookupError, message := key }
  | .none, _ => .error { cls := .typeError, message := "'NoneType' object is not subscriptable" }
  | .bool _, _ => .error { cls := .typeError, message := "'bool' object is not subscriptable" }
  | .int _, _ => .error { cls := .typeError, message := "'int' object is not subscriptable" }
  | .float _, _ => .error { cls := .typeError, message := "'float' object is not subscriptable" }
  | _, _ => .error { cls := .typeError }

/-- `d[key] = value` of a dictionary of values. -/
def setItem : Value → Value → Value → Except PyError Value
  | .dict entries, .str key, value => .ok (.dict (Dict.store entries key value))
  | _, _, _ => .error { cls := .typeError }

end Value

/-- Values as objects, with the operations of the examples; the others raise. -/
def PyObjects.ofValues : PyObjects where
  Obj := Value
  ofNone := .none
  ofBool := .bool
  ofStr := .str
  ofPayload payload := .dict payload.entries
  bool x := .ok x.truth
  compare := Value.compare
  binOp _ _ _ := .error { cls := .typeError }
  getItem := Value.getItem
  list := .list
  tuple := .list
  emptyDict := .dict []
  setItem := Value.setItem
  bool_ofBool _ := rfl

/-! ### The evaluator -/

namespace SafeConditionEvaluator

variable (M : PyObjects)

/-- `_apply_compare`. -/
def applyCompare (op : CmpOp) (left right : M.Obj) : Except PyError Bool :=
  match op with
  | .is | .isNot => .error { cls := .valueError, message := "unsupported comparison operator" }
  | op => M.compare op left right >>= M.bool

/-- `_apply_binop`. -/
def applyBinop (op : Operator) (left right : M.Obj) : Except PyError M.Obj :=
  match op with
  | .add | .sub | .mult | .div | .mod => M.binOp op left right
  | _ => .error { cls := .valueError, message := "unsupported binary operator" }

/-- `_ALLOWED_COMPARE_OPS`. -/
def allowedCompareOps : List CmpOp := [.eq, .notEq, .gt, .gtE, .lt, .ltE, .isIn, .notIn]

/-- `_ALLOWED_BOOL_OPS`. -/
def allowedBoolOps : List BoolOp := [.and, .or]

/-- `_ALLOWED_UNARY_OPS`. -/
def allowedUnaryOps : List UnaryOp := [.not]

/-- `_ALLOWED_BIN_OPS`. -/
def allowedBinOps : List Operator := [.add, .sub, .mult, .div, .mod]

mutual

/-- `_eval`.  The class `ast.Expression` is no expression; `evaluate` has taken it off. -/
def eval (context : Dict String M.Obj) : Expr M.Obj → Except PyError M.Obj
  | .constant value => .ok value
  | .name id =>
    match context.get? id with
    | none => .error { cls := .valueError, message := "unknown name in condition: " ++ id }
    | some value => .ok value
  | .boolOp op values =>
    if op ∉ allowedBoolOps then
      .error { cls := .valueError, message := "unsupported boolean operator" }
    else
      evalTruths context values >>= fun values => .ok (M.ofBool (op.combine values))
  | .unaryOp op operand =>
    if op ∉ allowedUnaryOps then
      .error { cls := .valueError, message := "unsupported unary operator" }
    else
      eval context operand >>= fun value =>
        M.bool value >>= fun b => .ok (M.ofBool !b)
  | .compare left comparators =>
    eval context left >>= fun left =>
      evalChain context true left comparators >>= fun result => .ok (M.ofBool result)
  | .subscript value slice =>
    eval context value >>= fun value =>
      eval context slice >>= fun key => M.getItem value key
  | .binOp left op right =>
    if op ∉ allowedBinOps then
      .error { cls := .valueError, message := "unsupported binary operator" }
    else
      eval context left >>= fun left =>
        eval context right >>= fun right => applyBinop M op left right
  | .list elts => evalList context elts >>= fun elts => .ok (M.list elts)
  | .tuple elts => evalList context elts >>= fun elts => .ok (M.tuple elts)
  | .dict items => evalItems context M.emptyDict items
  | .other kind _ =>
    .error { cls := .valueError, message := "unsupported condition syntax: " ++ kind.name }

/-- The operands of a connective, each as its truth value. -/
def evalTruths (context : Dict String M.Obj) : List (Expr M.Obj) → Except PyError (List Bool)
  | [] => .ok []
  | value :: values =>
    eval context value >>= fun value =>
      M.bool value >>= fun b => evalTruths context values >>= fun bs => .ok (b :: bs)

/-- The loop over the comparators, with the result so far and the left side. -/
def evalChain (context : Dict String M.Obj) (result : Bool) (left : M.Obj) :
    List (CmpOp × Expr M.Obj) → Except PyError Bool
  | [] => .ok result
  | (op, comparator) :: rest =>
    if op ∉ allowedCompareOps then
      .error { cls := .valueError, message := "unsupported comparison operator" }
    else
      eval context comparator >>= fun right =>
        -- `result and …`: after a false comparison the operator is not applied any more
        (if result then applyCompare M op left right else .ok false) >>= fun result =>
          evalChain context result right rest

/-- The elements of a display. -/
def evalList (context : Dict String M.Obj) : List (Expr M.Obj) → Except PyError (List M.Obj)
  | [] => .ok []
  | elt :: elts =>
    eval context elt >>= fun elt => evalList context elts >>= fun elts => .ok (elt :: elts)

/-- The loop over the items of a dictionary display.  An assignment evaluates its right side
first. -/
def evalItems (context : Dict String M.Obj) (resultDict : M.Obj) :
    List (Option (Expr M.Obj) × Expr M.Obj) → Except PyError M.Obj
  | [] => .ok resultDict
  | (none, _) :: _ =>
    .error { cls := .valueError, message := "dict unpacking is not supported in conditions" }
  | (some key, value) :: rest =>
    eval context value >>= fun value =>
      eval context key >>= fun key =>
        M.setItem resultDict key value >>= fun resultDict => evalItems context resultDict rest

end

/-- The four names of a condition. -/
def names (context : ConditionContext) : Dict String M.Obj :=
  (((Dict.empty.set "payload" (M.ofPayload context.payload)).set "response"
    (context.response.elim M.ofNone M.ofPayload)).set "action" (M.ofStr context.action)).set
      "accumulated" (M.ofPayload context.accumulated)

/-- `evaluate`, where `parse` is `ast.parse(…, mode="eval").body`. -/
def evaluate (parse : String → Except PyError (Expr M.Obj)) (expression : String)
    (context : ConditionContext) : Except PyError Bool :=
  parse expression >>= fun body => eval M (names M context) body >>= fun value => M.bool value

/-! ### What is visited -/

section Visited

variable {M} {context : Dict String M.Obj}

lemma exists_evalTruths_iff {values : List (Expr M.Obj)} :
    (∃ bs, evalTruths M context values = .ok bs) ↔
      ∀ e ∈ values, ∃ u b, eval M context e = .ok u ∧ M.bool u = .ok b := by
  induction values with
  | nil => simp [evalTruths]
  | cons value values ih =>
    rw [List.forall_mem_cons, ← ih]
    simp only [evalTruths, bind_ok_iff, Except.ok.injEq]
    constructor
    · rintro ⟨-, u, hu, b, hb, bs, hbs, rfl⟩
      exact ⟨⟨u, b, hu, hb⟩, bs, hbs⟩
    · rintro ⟨⟨u, b, hu, hb⟩, bs, hbs⟩
      exact ⟨_, u, hu, b, hb, bs, hbs, rfl⟩

lemma exists_evalList_iff {elts : List (Expr M.Obj)} :
    (∃ us, evalList M context elts = .ok us) ↔ ∀ e ∈ elts, ∃ u, eval M context e = .ok u := by
  induction elts with
  | nil => simp [evalList]
  | cons elt elts ih =>
    rw [List.forall_mem_cons, ← ih]
    simp only [evalList, bind_ok_iff, Except.ok.injEq]
    constructor
    · rintro ⟨-, u, hu, us, hus, rfl⟩
      exact ⟨⟨u, hu⟩, us, hus⟩
    · rintro ⟨⟨u, hu⟩, us, hus⟩
      exact ⟨_, u, hu, us, hus, rfl⟩

lemma visited_of_evalChain {result : Bool} {left : M.Obj} {rest : List (CmpOp × Expr M.Obj)}
    {b : Bool} (h : evalChain M context result left rest = .ok b) :
    ∀ link ∈ rest, link.1 ∈ allowedCompareOps ∧ ∃ u, eval M context link.2 = .ok u := by
  induction rest generalizing result left with
  | nil => simp
  | cons link rest ih =>
    obtain ⟨op, comparator⟩ := link
    simp only [evalChain, guard_ok_iff, not_not, bind_ok_iff] at h
    obtain ⟨hop, right, hright, result', -, hrest⟩ := h
    rw [List.forall_mem_cons]
    exact ⟨⟨hop, right, hright⟩, ih hrest⟩

lemma visited_of_evalItems {resultDict v : M.Obj}
    {items : List (Option (Expr M.Obj) × Expr M.Obj)}
    (h : evalItems M context resultDict items = .ok v) :
    ∀ item ∈ items, ∃ key, item.1 = some key ∧
      (∃ u, eval M context key = .ok u) ∧ ∃ u, eval M context item.2 = .ok u := by
  induction items generalizing resultDict with
  | nil => simp
  | cons item items ih =>
    rw [List.forall_mem_cons]
    obtain ⟨_ | key, value⟩ := item
    · rw [evalItems] at h
      cases h
    · simp only [evalItems, bind_ok_iff] at h
      obtain ⟨u, hu, k, hk, resultDict', -, hrest⟩ := h
      exact ⟨⟨key, rfl, ⟨k, hk⟩, u, hu⟩, ih hrest⟩

end Visited

end SafeConditionEvaluator

/-! ### The sandbox -/

namespace Expr

variable {Obj : Type}

/-- The expressions directly under a node. -/
def children : Expr Obj → List (Expr Obj)
  | .constant _ | .name _ => []
  | .boolOp _ values => values
  | .unaryOp _ operand => [operand]
  | .compare left comparators => left :: comparators.map Prod.snd
  | .subscript value slice => [value, slice]
  | .binOp left _ right => [left, right]
  | .list elts | .tuple elts => elts
  | .dict items => items.flatMap fun item => item.1.toList ++ [item.2]
  | .other _ parts => parts

lemma sizeOf_lt_of_mem_children {e c : Expr Obj} (h : c ∈ e.children) : sizeOf c < sizeOf e := by
  cases e with
  | constant value => cases h
  | name id => cases h
  | boolOp op values =>
    have hlt : sizeOf c < sizeOf values := List.sizeOf_lt_of_mem h
    simp only [boolOp.sizeOf_spec]
    omega
  | unaryOp op operand =>
    obtain rfl := List.mem_singleton.1 h
    simp only [unaryOp.sizeOf_spec]
    omega
  | compare left comparators =>
    simp only [compare.sizeOf_spec]
    rcases List.mem_cons.1 h with rfl | h
    · omega
    · obtain ⟨⟨op, comparator⟩, hlink, rfl⟩ := List.mem_map.1 h
      have hlt := List.sizeOf_lt_of_mem hlink
      simp only [Prod.mk.sizeOf_spec] at hlt ⊢
      omega
  | subscript value slice =>
    simp only [subscript.sizeOf_spec]
    rcases List.mem_pair.1 h with rfl | rfl <;> omega
  | binOp left op right =>
    simp only [binOp.sizeOf_spec]
    rcases List.mem_pair.1 h with rfl | rfl <;> omega
  | list elts =>
    have hlt : sizeOf c < sizeOf elts := List.sizeOf_lt_of_mem h
    simp only [list.sizeOf_spec]
    omega
  | tuple elts =>
    have hlt : sizeOf c < sizeOf elts := List.sizeOf_lt_of_mem h
    simp only [tuple.sizeOf_spec]
    omega
  | dict items =>
    obtain ⟨⟨key, value⟩, hitem, h⟩ := List.mem_flatMap.1 h
    have hlt := List.sizeOf_lt_of_mem hitem
    simp only [dict.sizeOf_spec]
    simp only [Prod.mk.sizeOf_spec] at hlt
    rcases List.mem_append.1 h with h | h
    · obtain rfl := Option.mem_toList.1 h
      simp only [Option.some.sizeOf_spec] at hlt
      omega
    · obtain rfl := List.mem_singleton.1 h
      omega
  | other kind parts =>
    have hlt : sizeOf c < sizeOf parts := List.sizeOf_lt_of_mem h
    simp only [other.sizeOf_spec]
    omega

/-- Induction on syntax trees: a property of the nodes under a node is a property of the node. -/
lemma induction_children {P : Expr Obj → Prop} (h : ∀ e, (∀ c ∈ e.children, P c) → P e)
    (e : Expr Obj) : P e :=
  h e fun c _ => induction_children h c
termination_by sizeOf e
decreasing_by exact sizeOf_lt_of_mem_children ‹_›

/-- The nodes of a tree. -/
def Node (e n : Expr Obj) : Prop :=
  Relation.ReflTransGen (fun parent child => child ∈ parent.children) e n

/-- A node of a kind, with operators and with names that a condition may use. -/
def Whitelisted : Expr Obj → Prop
  | .constant _ | .subscript _ _ | .list _ | .tuple _ => True
  | .name id => id ∈ ["payload", "response", "action", "accumulated"]
  | .boolOp op _ => op ∈ [BoolOp.and, .or]
  | .unaryOp op _ => op = .not
  | .compare _ comparators => ∀ link ∈ comparators,
      link.1 ∈ [CmpOp.eq, .notEq, .gt, .gtE, .lt, .ltE, .isIn, .notIn]
  | .binOp _ op _ => op ∈ [Operator.add, .sub, .mult, .div, .mod]
  -- an item without a key unpacks a dictionary
  | .dict items => ∀ item ∈ items, item.1.isSome = true
  | .other _ _ => False

end Expr

namespace SafeConditionEvaluator

variable {M : PyObjects}

lemma get?_names {context : ConditionContext} {id : String} {v : M.Obj}
    (h : (names M context).get? id = some v) :
    id ∈ ["payload", "response", "action", "accumulated"] := by
  by_contra hid
  simp only [List.mem_cons, List.not_mem_nil, or_false, not_or] at hid
  rw [names, Dict.get?_set, if_neg hid.2.2.2, Dict.get?_set, if_neg hid.2.2.1, Dict.get?_set,
    if_neg hid.2.1, Dict.get?_set, if_neg hid.1] at h
  cases h

/-- A node that is evaluated is whitelisted, and every node under it is evaluated. -/
lemma visited_of_eval {context : ConditionContext} {e : Expr M.Obj} {v : M.Obj}
    (h : eval M (names M context) e = .ok v) :
    e.Whitelisted ∧ ∀ c ∈ e.children, ∃ u, eval M (names M context) c = .ok u := by
  cases e with
  | constant value => exact ⟨trivial, by simp [Expr.children]⟩
  | name id =>
    refine ⟨?_, by simp [Expr.children]⟩
    rw [eval] at h
    split at h
    · cases h
    · exact get?_names ‹_›
  | boolOp op values =>
    simp only [eval, guard_ok_iff, not_not, bind_ok_iff] at h
    obtain ⟨hop, bs, hbs, -⟩ := h
    refine ⟨hop, fun c hc => ?_⟩
    obtain ⟨u, -, hu, -⟩ := exists_evalTruths_iff.1 ⟨bs, hbs⟩ c hc
    exact ⟨u, hu⟩
  | unaryOp op operand =>
    simp only [eval, guard_ok_iff, not_not, bind_ok_iff] at h
    obtain ⟨hop, u, hu, -⟩ := h
    refine ⟨List.mem_singleton.1 hop, fun c hc => ?_⟩
    obtain rfl := List.mem_singleton.1 hc
    exact ⟨u, hu⟩
  | compare left comparators =>
    simp only [eval, bind_ok_iff] at h
    obtain ⟨u, hu, b, hb, -⟩ := h
    have hlinks := visited_of_evalChain hb
    refine ⟨fun link hlink => (hlinks link hlink).1, fun c hc => ?_⟩
    rcases List.mem_cons.1 hc with rfl | hc
    · exact ⟨u, hu⟩
    · obtain ⟨link, hlink, rfl⟩ := List.mem_map.1 hc
      exact (hlinks link hlink).2
  | subscript value slice =>
    simp only [eval, bind_ok_iff] at h
    obtain ⟨u, hu, k, hk, -⟩ := h
    refine ⟨trivial, fun c hc => ?_⟩
    rcases List.mem_pair.1 hc with rfl | rfl
    · exact ⟨u, hu⟩
    · exact ⟨k, hk⟩
  | binOp left op right =>
    simp only [eval, guard_ok_iff, not_not, bind_ok_iff] at h
    obtain ⟨hop, l, hl, r, hr, -⟩ := h
    refine ⟨hop, fun c hc => ?_⟩
    rcases List.mem_pair.1 hc with rfl | rfl
    · exact ⟨l, hl⟩
    · exact ⟨r, hr⟩
  | list elts =>
    simp only [eval, bind_ok_iff] at h
    obtain ⟨us, hus, -⟩ := h
    exact ⟨trivial, exists_evalList_iff.1 ⟨us, hus⟩⟩
  | tuple elts =>
    simp only [eval, bind_ok_iff] at h
    obtain ⟨us, hus, -⟩ := h
    exact ⟨trivial, exists_evalList_iff.1 ⟨us, hus⟩⟩
  | dict items =>
    rw [eval] at h
    have hitems := visited_of_evalItems h
    refine ⟨fun item hitem => ?_, fun c hc => ?_⟩
    · obtain ⟨key, hkey, -⟩ := hitems item hitem
      rw [hkey]
      rfl
    · obtain ⟨item, hitem, hc⟩ := List.mem_flatMap.1 hc
      obtain ⟨key, hkey, hkeyOk, hvalueOk⟩ := hitems item hitem
      rw [hkey] at hc
      rcases List.mem_pair.1 hc with rfl | rfl
      · exact hkeyOk
      · exact hvalueOk
  | other kind parts =>
    rw [eval] at h
    cases h

/-- Every node of a tree that is evaluated is evaluated. -/
lemma eval_of_node {context : ConditionContext} {e n : Expr M.Obj} (hn : e.Node n) {v : M.Obj}
    (h : eval M (names M context) e = .ok v) : ∃ u, eval M (names M context) n = .ok u := by
  induction hn with
  | refl => exact ⟨v, h⟩
  | tail _ hchild ih =>
    obtain ⟨u, hu⟩ := ih
    exact (visited_of_eval hu).2 _ hchild

/-- When the evaluation of a condition returns, every node of the whole syntax tree is
whitelisted. -/
theorem whitelisted_of_evaluate (M : PyObjects) (parse : String → Except PyError (Expr M.Obj))
    (expression : String) (context : ConditionContext) (b : Bool)
    (h : evaluate M parse expression context = .ok b) :
    ∃ body, parse expression = .ok body ∧ ∀ n, body.Node n → n.Whitelisted := by
  simp only [evaluate, bind_ok_iff] at h
  obtain ⟨body, hbody, v, hv, -⟩ := h
  refine ⟨body, hbody, fun n hn => ?_⟩
  obtain ⟨u, hu⟩ := eval_of_node hn hv
  exact (visited_of_eval hu).1

/-- The text of a condition, and its syntax tree. -/
def highScore : String × Expr Value :=
  ("payload['score'] >= 70 and action == 'score'",
    .boolOp .and
      [.compare (.subscript (.name "payload") (.constant (.str "score")))
        [(.gtE, .constant (.int 70))],
      .compare (.name "action") [(.eq, .constant (.str "score"))]])

/-- A parser that knows one condition. -/
def parseOnly (known : String × Expr Value) (expression : String) :
    Except PyError (Expr Value) :=
  if expression = known.1 then .ok known.2 else .error { cls := .valueError }

/-- The evaluator accepts the condition for a payload with the score 88. -/
theorem whitelisted_highScore :
    ∃ body, parseOnly highScore highScore.1 = .ok body ∧ ∀ n, body.Node n → n.Whitelisted :=
  whitelisted_of_evaluate .ofValues (parseOnly highScore) highScore.1
    { payload := Dict.empty.set "score" (.int 88), response := none, action := "score",
      accumulated := .empty } true (by decide)

end SafeConditionEvaluator

end ConstellationGate
