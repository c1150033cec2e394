import RowScope.Proofs.Query

/-!
# What a conjunction comes to

`Expr.conjoin` flattens: an expression that is a conjunction already gives its
operands and not itself.  A root that is no truth value does not match, and an
operand that is none counts as not true, so flattening is never seen from a row.

* `Predicate.compile_conjoin`: the conjunction of two expressions compiles if both
  do, to the conjunction of their predicates, and the first error is the error.
* `Predicate.holds_conjoin`: a row matches it if it matches both.
* `Query.compile?_inject_eq_error_iff` and `Query.matchesPredicate_of_compile?_inject`
  say the same of a predicate that filters were injected into; filters have no
  parameters, so they bring no error of their own.
* `Query.execute_translated`: hence a query can be executed by its effective
  predicate alone.
-/

namespace RowScope

namespace Predicate

/-- The operands of a conjunction; any other predicate is its own operand. -/
def conjuncts : Predicate → List Predicate
  | .conj ps => ps
  | p => [p]

/-- The conjunction of two predicates. -/
def conjoin (p q : Predicate) : Predicate := .conj (p.conjuncts ++ q.conjuncts)

/-! ## Compilation -/

theorem compileAll_append (as bs : List Expr) :
    compileAll (as ++ bs) = (do
      let ps ← compileAll as
      let qs ← compileAll bs
      pure (ps ++ qs)) := by
  induction as with
  | nil =>
    rw [List.nil_append, compileAll]
    cases compileAll bs <;> rfl
  | cons a as ih =>
    rw [List.cons_append, compileAll, compileAll, ih]
    cases compile a with
    | error e => rfl
    | ok p =>
      cases compileAll as with
      | error e => rfl
      | ok ps => cases compileAll bs <;> rfl

/-- Operands compile to the operands of the predicate. -/
theorem compileAll_conjuncts (e : Expr) :
    compileAll e.conjuncts = (compile e).map conjuncts := by
  cases e with
  | field name => rfl
  | param name => rfl
  | literal v => rfl
  | conj es =>
    rw [Expr.conjuncts, compile]
    cases compileAll es <;> rfl
  | compare op l r =>
    change compileAll [.compare op l r] = _
    rw [compileAll, compile]
    cases compile l with
    | error e => rfl
    | ok p => cases compile r <;> rfl
  | disj es =>
    change compileAll [.disj es] = _
    rw [compileAll, compile]
    cases compileAll es <;> rfl
  | neg e =>
    change compileAll [.neg e] = _
    rw [compileAll, compile]
    cases compile e <;> rfl

/-- A conjunction compiles to the conjunction of what its parts compile to. -/
theorem compile_conjoin (a b : Expr) :
    compile (a.conjoin b) = (do
      let p ← compile a
      let q ← compile b
      pure (p.conjoin q)) := by
  rw [Expr.conjoin, compile, compileAll_append, compileAll_conjuncts, compileAll_conjuncts]
  cases compile a with
  | error e => rfl
  | ok p => cases compile b <;> rfl

/-! ## Evaluation -/

section Evaluation

variable (row : Row)

theorem allTrue_append (ps qs : List Predicate) :
    allTrue row (ps ++ qs) = (allTrue row ps && allTrue row qs) := by
  induction ps with
  | nil => rfl
  | cons p ps ih => rw [List.cons_append, allTrue, allTrue, ih, Bool.and_assoc]

theorem holds_conj (ps : List Predicate) : (conj ps).holds row = allTrue row ps := by
  rw [holds, eval]
  cases allTrue row ps <;> rfl

theorem allTrue_conjuncts (p : Predicate) : allTrue row p.conjuncts = p.holds row := by
  cases p with
  | conj ps => exact (holds_conj row ps).symm
  | _ => exact Bool.and_true _

/-- A row matches a conjunction if it matches both parts. -/
theorem holds_conjoin (p q : Predicate) :
    (p.conjoin q).holds row = (p.holds row && q.holds row) := by
  rw [conjoin, holds_conj, allTrue_append, allTrue_conjuncts, allTrue_conjuncts]

end Evaluation

end Predicate

/-! ## Injected filters -/

namespace Query

/-- A predicate that may be missing with one more and-ed on. -/
def conjoin? (p : Option Predicate) (filter : Predicate) : Predicate :=
  match p with
  | some p => p.conjoin filter
  | none => filter

/-- A predicate that may be missing with one filter after the other and-ed on. -/
def conjoinAll (p : Option Predicate) (filters : List Predicate) : Option Predicate :=
  filters.foldl (fun acc filter => some (conjoin? acc filter)) p

theorem compile?_conjoin? (caller : Option Expr) (filter : Predicate) :
    compile? (some (Expr.conjoin? caller filter.toExpr)) =
      (compile? caller).map fun p => some (conjoin? p filter) := by
  have made : Predicate.compile filter.toExpr = .ok filter := Predicate.compile_toExpr filter
  cases caller with
  | none =>
    change compile? (some filter.toExpr) = .ok (some filter)
    rw [compile?, made]
  | some e =>
    rw [Expr.conjoin?, compile?, compile?, Predicate.compile_conjoin, made]
    cases Predicate.compile e <;> rfl

/-- What compiles after filters were injected is what compiled before. -/
theorem compile?_inject (caller : Option Expr) (filters : List Predicate) :
    compile? (inject caller filters) = (compile? caller).map fun p => conjoinAll p filters := by
  induction filters generalizing caller with
  | nil =>
    change compile? caller = _
    cases compile? caller <;> rfl
  | cons filter filters ih =>
    rw [inject, List.foldl_cons]
    refine (ih _).trans ?_
    rw [compile?_conjoin?]
    cases compile? caller <;> rfl

/-- Injected filters bring no error, and hide none. -/
theorem compile?_inject_eq_error_iff {caller : Option Expr} {filters : List Predicate}
    {error : FilterError} :
    compile? (inject caller filters) = .error error ↔ compile? caller = .error error := by
  rw [compile?_inject, map_eq_error_iff]

theorem matchesPredicate_conjoin? (p : Option Predicate) (filter : Predicate) (row : Row) :
    matchesPredicate (some (conjoin? p filter)) row =
      (matchesPredicate p row && filter.holds row) := by
  cases p with
  | none => rfl
  | some p => exact Predicate.holds_conjoin row p filter

theorem matchesPredicate_conjoinAll (p : Option Predicate) (filters : List Predicate)
    (row : Row) :
    matchesPredicate (conjoinAll p filters) row =
      (matchesPredicate p row && filters.all fun filter => filter.holds row) := by
  induction filters generalizing p with
  | nil => exact (Bool.and_true _).symm
  | cons filter filters ih =>
    rw [conjoinAll, List.foldl_cons]
    refine (ih _).trans ?_
    rw [matchesPredicate_conjoin?, List.all_cons, Bool.and_assoc]

/-- A row matches a predicate that filters were injected into if it matches the predicate
and every filter. -/
theorem matchesPredicate_of_compile?_inject {caller : Option Expr} {filters : List Predicate}
    {whole part : Option Predicate} (wholeOf : compile? (inject caller filters) = .ok whole)
    (partOf : compile? caller = .ok part) (row : Row) :
    matchesPredicate whole row =
      (matchesPredicate part row && filters.all fun filter => filter.holds row) := by
  rw [compile?_inject, partOf] at wholeOf
  cases wholeOf
  exact matchesPredicate_conjoinAll part filters row

/-- There is no effective predicate exactly if there is nothing to be effective. -/
theorem inject_eq_none_iff (caller : Option Expr) (filters : List Predicate) :
    inject caller filters = none ↔ caller = none ∧ filters = [] := by
  induction filters generalizing caller with
  | nil => simp [inject]
  | cons filter filters ih =>
    rw [inject, List.foldl_cons]
    refine (ih _).trans ?_
    simp

/-- A query that carries its effective predicate in place of predicate and filters. -/
def translated (q : Query) : Query :=
  { q with predicate := q.effectivePredicate, filters := [] }

/-- By its effective predicate alone a query gives the rows that it gives by its
predicate and its filters, or the same error. -/
theorem execute_translated (q : Query) (rows : List Row) :
    q.translated.execute rows = q.execute rows := by
  rw [execute, execute, translated, effectivePredicate, compile?_inject]
  cases compile? q.predicate with
  | error error => rfl
  | ok p =>
    dsimp only [Except.map]
    congr 2
    funext row
    rw [matchesPredicate_conjoinAll, List.all_nil, Bool.and_true, Bool.and_assoc]

end Query

end RowScope
