import RowScope.Proofs.Evaluation
import RowScope.Query

/-!
# What a query gives

`Query.execute_eq_ok_iff`: a query gives the rows of its entity type on which the
predicate of the caller has the value true and which match every injected filter,
in the order in which they stand.  It fails only for a parameter in the predicate
of the caller.
-/

namespace RowScope.Query

variable {q : Query} {rows answer : List Row}

/-- A row of the entity type that matches the predicate and the filters. -/
def Selects (q : Query) (row : Row) : Prop :=
  row.entity = q.entity ∧ (∀ e ∈ q.predicate, e.Holds (fun _ => .null) row) ∧
    ∀ f ∈ q.filters, f.holds row = true

instance (q : Query) (row : Row) : Decidable (q.Selects row) :=
  inferInstanceAs (Decidable (_ ∧ _ ∧ _))

/-! ## The predicate of the caller -/

section Caller

variable {caller : Option Expr} {p : Option Predicate}

/-- It compiles exactly if it has no parameters. -/
theorem exists_compile?_iff :
    (∃ p, compile? caller = .ok p) ↔ ∀ e ∈ caller, e.paramOccurrences = [] := by
  cases caller with
  | none => simp [compile?]
  | some e =>
    have compiles : (∀ e' ∈ some e, e'.paramOccurrences = []) ↔ e.paramOccurrences = [] := by
      simp
    rw [compiles, ← Expr.exists_compile_iff, compile?]
    cases Predicate.compile e with
    | error error => simp
    | ok p => simp

theorem matchesPredicate_iff (compiled : compile? caller = .ok p) (row : Row) :
    matchesPredicate p row = true ↔ ∀ e ∈ caller, e.Holds (fun _ => .null) row := by
  cases caller with
  | none =>
    cases compiled
    simp [matchesPredicate]
  | some e =>
    rw [compile?] at compiled
    split at compiled
    · next made =>
      cases compiled
      rw [matchesPredicate, Predicate.holds_iff fun _ => .null,
        Predicate.toExpr_of_compile e made]
      simp
    · cases compiled

end Caller

/-! ## Execution -/

theorem execute_eq_ok_iff :
    q.execute rows = .ok answer ↔
      (∀ e ∈ q.predicate, e.paramOccurrences = []) ∧
        answer = rows.filter fun row => q.Selects row := by
  rw [execute, ← exists_compile?_iff]
  cases compiled : compile? q.predicate with
  | error error => simp
  | ok p =>
    have selected : ∀ row, (row.entity == q.entity && matchesPredicate p row &&
        q.filters.all fun f => f.holds row) = decide (q.Selects row) := by
      intro row
      rw [Bool.eq_iff_iff, decide_eq_true_iff, Selects, ← matchesPredicate_iff compiled row]
      simp [and_assoc]
    simp [selected, eq_comm]

end RowScope.Query
