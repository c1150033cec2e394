import Mathlib.Data.List.Induction
import RowScope.Proofs.Resolution

/-!
# Executing an expression

Two traversals go over an expression.  One visits every node and notes the parameters; the
other makes a function of a row out of it and stops at the first parameter.  They agree on
which parameter that is, and without one the function evaluates the tree.

* `Expr.walk` is the visit of all nodes, and `Expr.params_eq_walk` says that the parameters
  of an expression are what it notes.
* `Expr.closure` builds a function for every node from those of its operands, and
  `Expr.closure_eq` says that a predicate stands for the one that its expression gives.
* `Expr.Evaluates` are the rules of evaluation.  No rule is about a parameter, and whatever
  has a value by the rules has that value directly (`Expr.value_of_evaluates`).
* `Predicate.compilation_exact` puts these together.

Every fact about a tree comes with its twin about a list of operands.
-/

namespace RowScope

/-- The first name of a list stays the first one when repetitions are dropped. -/
theorem head?_eraseDups (names : List String) : names.eraseDups.head? = names.head? := by
  cases names with
  | nil => rfl
  | cons name names => rw [List.eraseDups_cons, List.head?_cons, List.head?_cons]

namespace Expr

/-! ## Visiting a tree -/

mutual

/-- Visits every node of a tree: first the node itself, then its operands from left to
right. -/
def walk {α : Type} (visit : Expr → α → α) : Expr → α → α
  | .field name, seen => visit (.field name) seen
  | .param name, seen => visit (.param name) seen
  | .literal v, seen => visit (.literal v) seen
  | .compare op l r, seen => walk visit r (walk visit l (visit (.compare op l r) seen))
  | .conj es, seen => walkAll visit es (visit (.conj es) seen)
  | .disj es, seen => walkAll visit es (visit (.disj es) seen)
  | .neg e, seen => walk visit e (visit (.neg e) seen)

/-- Visits the trees of a list. -/
def walkAll {α : Type} (visit : Expr → α → α) : List Expr → α → α
  | [], seen => seen
  | e :: es, seen => walkAll visit es (walk visit e seen)

end

/-- Notes a name, unless it was noted before. -/
def noteName (names : List String) (name : String) : List String :=
  if names.contains name then names else names ++ [name]

/-- Notes the name of a parameter, and nothing of another node. -/
def noteParam : Expr → List String → List String
  | .param name, names => noteName names name
  | _, names => names

mutual

theorem walk_noteParam : ∀ (e : Expr) (names : List String),
    e.walk noteParam names = e.paramOccurrences.foldl noteName names
  | .field _, _ => rfl
  | .param _, _ => rfl
  | .literal _, _ => rfl
  | .compare _ l r, names => by
    rw [walk, paramOccurrences, List.foldl_append, walk_noteParam l, walk_noteParam r]
    rfl
  | .conj es, names => walkAll_noteParam es names
  | .disj es, names => walkAll_noteParam es names
  | .neg e, names => walk_noteParam e names

theorem walkAll_noteParam : ∀ (es : List Expr) (names : List String),
    walkAll noteParam es names = (paramOccurrencesAll es).foldl noteName names
  | [], _ => rfl
  | e :: es, names => by
    rw [walkAll, paramOccurrencesAll, List.foldl_append, walk_noteParam e, walkAll_noteParam es]

end

/-- To note one name after the other is to drop the repetitions. -/
theorem foldl_noteName (names : List String) : names.foldl noteName [] = names.eraseDups := by
  induction names using List.reverseRecOn with
  | nil => rfl
  | append_singleton names name ih =>
    rw [List.foldl_append, ih, eraseDups_concat, List.foldl_cons, List.foldl_nil, noteName]
    simp only [List.contains_iff_mem, List.mem_eraseDups]

/-- **The parameters of an expression** are those that a visit of all nodes notes. -/
theorem params_eq_walk (e : Expr) : e.params = e.walk noteParam [] := by
  rw [walk_noteParam, foldl_noteName, params]

/-! ## Closures -/

mutual

/-- The function of a row that a tree is executed as, made of those of its operands.  The
first parameter that is met is the error. -/
def closure : Expr → Except FilterError (Row → Value)
  | .field name => .ok fun row => row.read name
  | .param name => .error (Predicate.unboundParameter name)
  | .literal v => .ok fun _ => v
  | .compare op l r => do
    let left ← closure l
    let right ← closure r
    pure fun row => .bool (op.apply (left row) (right row))
  | .conj es => do
    let operands ← closures es
    pure fun row => .bool (operands.all fun operand => (operand row).isTrue)
  | .disj es => do
    let operands ← closures es
    pure fun row => .bool (operands.any fun operand => (operand row).isTrue)
  | .neg e => do
    let operand ← closure e
    pure fun row => Predicate.negate (operand row)

/-- The functions of a list of operands. -/
def closures : List Expr → Except FilterError (List (Row → Value))
  | [] => .ok []
  | e :: es => do
    let operand ← closure e
    let operands ← closures es
    pure (operand :: operands)

end

end Expr

namespace Predicate

/-- The function of a row that a predicate stands for. -/
def evaluator (p : Predicate) : Row → Value := fun row => p.eval row

theorem allTrue_eq_all (row : Row) (ps : List Predicate) :
    allTrue row ps = (ps.map evaluator).all fun operand => (operand row).isTrue := by
  induction ps with
  | nil => rfl
  | cons p ps ih =>
    rw [allTrue, ih]
    rfl

theorem anyTrue_eq_any (row : Row) (ps : List Predicate) :
    anyTrue row ps = (ps.map evaluator).any fun operand => (operand row).isTrue := by
  induction ps with
  | nil => rfl
  | cons p ps ih =>
    rw [anyTrue, ih]
    rfl

end Predicate

namespace Expr

mutual

/-- **A predicate stands for the function** that its expression gives. -/
theorem closure_eq : ∀ e : Expr, e.closure = (Predicate.compile e).map Predicate.evaluator
  | .field _ => rfl
  | .param _ => rfl
  | .literal _ => rfl
  | .compare op l r => by
    rw [closure, Predicate.compile, closure_eq l, closure_eq r]
    cases Predicate.compile l with
    | error _ => rfl
    | ok pl =>
      cases Predicate.compile r with
      | error _ => rfl
      | ok pr => rfl
  | .conj es => by
    rw [closure, Predicate.compile, closures_eq es]
    cases Predicate.compileAll es with
    | error _ => rfl
    | ok ps =>
      refine congrArg Except.ok (funext fun row => ?_)
      exact congrArg Value.bool (Predicate.allTrue_eq_all row ps).symm
  | .disj es => by
    rw [closure, Predicate.compile, closures_eq es]
    cases Predicate.compileAll es with
    | error _ => rfl
    | ok ps =>
      refine congrArg Except.ok (funext fun row => ?_)
      exact congrArg Value.bool (Predicate.anyTrue_eq_any row ps).symm
  | .neg e => by
    rw [closure, Predicate.compile, closure_eq e]
    cases Predicate.compile e with
    | error _ => rfl
    | ok p => rfl

theorem closures_eq : ∀ es : List Expr,
    closures es = (Predicate.compileAll es).map (List.map Predicate.evaluator)
  | [] => rfl
  | e :: es => by
    rw [closures, Predicate.compileAll, closure_eq e, closures_eq es]
    cases Predicate.compile e with
    | error _ => rfl
    | ok p =>
      cases Predicate.compileAll es with
      | error _ => rfl
      | ok ps => rfl

end

/-! ## Rules of evaluation -/

mutual

/-- The value of an expression without parameters on a row. -/
inductive Evaluates (row : Row) : Expr → Value → Prop
  | present {name : String} {v : Value} (found : row.fields.get? name = some v) :
    Evaluates row (.field name) v
  | absent {name : String} (missing : row.fields.get? name = none) :
    Evaluates row (.field name) .null
  | literal (v : Value) : Evaluates row (.literal v) v
  | compare (op : Comparison) {l r : Expr} {a b : Value} (left : Evaluates row l a)
      (right : Evaluates row r b) : Evaluates row (.compare op l r) (.bool (op.apply a b))
  | conj {es : List Expr} {vs : List Value} (operands : EvaluatesAll row es vs) :
    Evaluates row (.conj es) (.bool (decide (∀ v ∈ vs, v = .bool true)))
  | disj {es : List Expr} {vs : List Value} (operands : EvaluatesAll row es vs) :
    Evaluates row (.disj es) (.bool (decide (∃ v ∈ vs, v = .bool true)))
  | negBool {e : Expr} {b : Bool} (operand : Evaluates row e (.bool b)) :
    Evaluates row (.neg e) (.bool (!b))
  | negOther {e : Expr} {v : Value} (operand : Evaluates row e v)
      (other : ∀ b, v ≠ .bool b) : Evaluates row (.neg e) (.bool false)

/-- The values of a list of operands. -/
inductive EvaluatesAll (row : Row) : List Expr → List Value → Prop
  | nil : EvaluatesAll row [] []
  | cons {e : Expr} {es : List Expr} {v : Value} {vs : List Value}
      (first : Evaluates row e v) (rest : EvaluatesAll row es vs) :
    EvaluatesAll row (e :: es) (v :: vs)

end

section Values

variable (env : String → Value) (row : Row)

theorem allTrue_eq_decide (es : List Expr) :
    allTrue env row es = decide (∀ v ∈ es.map (value env row), v = .bool true) := by
  induction es with
  | nil => simp [allTrue]
  | cons e es ih =>
    rw [allTrue, ih, Bool.eq_iff_iff, Bool.and_eq_true, Value.isTrue_iff, decide_eq_true_iff,
      decide_eq_true_iff, List.map_cons, List.forall_mem_cons]

theorem anyTrue_eq_decide (es : List Expr) :
    anyTrue env row es = decide (∃ v ∈ es.map (value env row), v = .bool true) := by
  induction es with
  | nil => simp [anyTrue]
  | cons e es ih =>
    rw [anyTrue, ih, Bool.eq_iff_iff, Bool.or_eq_true, Value.isTrue_iff, decide_eq_true_iff,
      decide_eq_true_iff, List.map_cons, List.exists_mem_cons_iff]

variable {row}

mutual

/-- An expression has no other value than the one that the rules give it. -/
theorem value_of_evaluates : ∀ (e : Expr) {v : Value}, e.Evaluates row v → e.value env row = v
  | .field _, _, .present found => by
    rw [value, Row.read, found]
    rfl
  | .field _, _, .absent missing => by
    rw [value, Row.read, missing]
    rfl
  | .literal _, _, .literal _ => rfl
  | .compare _ l r, _, .compare _ left right => by
    rw [value, value_of_evaluates l left, value_of_evaluates r right]
  | .conj es, _, .conj operands => by
    rw [value, allTrue_eq_decide, values_of_evaluatesAll es operands]
  | .disj es, _, .disj operands => by
    rw [value, anyTrue_eq_decide, values_of_evaluatesAll es operands]
  | .neg e, _, .negBool operand => by rw [value, value_of_evaluates e operand]
  | .neg e, _, @Evaluates.negOther _ _ v operand other => by
    rw [value, value_of_evaluates e operand]
    cases v with
    | bool b => exact absurd rfl (other b)
    | _ => rfl

theorem values_of_evaluatesAll : ∀ (es : List Expr) {vs : List Value},
    EvaluatesAll row es vs → es.map (value env row) = vs
  | [], _, .nil => rfl
  | e :: es, _, .cons first rest => by
    rw [List.map_cons, value_of_evaluates e first, values_of_evaluatesAll es rest]

end

variable (row)

mutual

/-- The tree of a predicate has a value by the rules. -/
theorem evaluates_toExpr : ∀ p : Predicate, p.toExpr.Evaluates row (p.toExpr.value env row)
  | .field name => by
    rw [Predicate.toExpr, value, Row.read]
    cases found : row.fields.get? name with
    | some v => exact .present found
    | none => exact .absent found
  | .literal v => .literal v
  | .compare op l r => .compare op (evaluates_toExpr l) (evaluates_toExpr r)
  | .conj ps => by
    rw [Predicate.toExpr, value, allTrue_eq_decide]
    exact .conj (evaluatesAll_toExprs ps)
  | .disj ps => by
    rw [Predicate.toExpr, value, anyTrue_eq_decide]
    exact .disj (evaluatesAll_toExprs ps)
  | .neg p => by
    have operand := evaluates_toExpr p
    rw [Predicate.toExpr, value]
    split
    · next b bool => exact .negBool (bool ▸ operand)
    · next other => exact .negOther operand other

theorem evaluatesAll_toExprs : ∀ ps : List Predicate,
    EvaluatesAll row (Predicate.toExprs ps) ((Predicate.toExprs ps).map (value env row))
  | [] => .nil
  | p :: ps => .cons (evaluates_toExpr p) (evaluatesAll_toExprs ps)

end

end Values

end Expr

namespace Predicate

/-- **Compilation accepts the trees without parameters.**  An expression compiles exactly if
it refers to no parameter.  Otherwise the first of the parameters that it refers to is the
error, and these are the ones that a visit of all its nodes notes.  The predicate has the
expression as its tree, it stands for the function of a row that is built node by node, and
on every row it has the one value that the rules of evaluation give the expression. -/
theorem compilation_exact (e : Expr) :
    ((∃ p, compile e = .ok p) ↔ e.isParameterFree = true) ∧
      (∀ error, compile e = .error error ↔
        ∃ name, e.params.head? = some name ∧
          error = .intercept s!"parameter ':{name}' is not bound in executable predicate") ∧
      e.params = e.walk Expr.noteParam [] ∧
      e.closure = (compile e).map evaluator ∧
      ∀ p, compile e = .ok p →
        p.toExpr = e ∧ ∀ row v, p.evaluator row = v ↔ e.Evaluates row v := by
  have first : e.params.head? = e.paramOccurrences.head? := head?_eraseDups _
  refine ⟨?_, ?_, e.params_eq_walk, e.closure_eq, ?_⟩
  · rw [Expr.exists_compile_iff, Expr.isParameterFree, List.isEmpty_iff,
      ← List.head?_eq_none_iff, ← first, List.head?_eq_none_iff]
  · intro error
    rw [first]
    exact Expr.compile_eq_error_iff
  · intro p compiled
    have tree := toExpr_of_compile e compiled
    refine ⟨tree, fun row v => ?_⟩
    -- nothing reads the environment, since the tree has no parameters
    have evaluated := Expr.evaluates_toExpr (fun _ => .null) row p
    rw [evaluator, eval_eq_value fun _ => .null]
    rw [tree] at evaluated ⊢
    constructor
    · rintro rfl
      exact evaluated
    · exact Expr.value_of_evaluates (fun _ => .null) e

/-! The parameter that is met first is the error although another one comes before it by
name, and the negation of a field that a row does not have is false. -/

example :
    compile (.conj [.neg (.disj [.compare .gt (.field "id") (.param "most")]), .param "least",
      .param "most"]) = .error (unboundParameter "most") := rfl

example (entity : String) :
    (compile (.neg (.field "hidden"))).map (fun p => p.evaluator ⟨entity, .empty⟩) =
      .ok (.bool false) := rfl

end Predicate

end RowScope
