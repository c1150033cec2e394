import Mathlib.Data.List.Induction
import RowScope.Proofs.Resolution

/-!
# Binding substitutes values for parameters

`Expr.substitute` puts a literal in the place of every parameter that has a value and
leaves the other ones where they stand.  It never fails, and a bound expression is what it
gives.

* `Expr.bind_eq`: binding fails for the first parameter from left to right that has no
  value, and substitutes if there is none.
* `Expr.paramOccurrences_substitute`, `Expr.fieldOccurrences_substitute` and
  `Expr.substitute_eq_self`: what substitution leaves of the references.
* `Expr.bind_exact` puts these together with what the bound expression evaluates to.

Every fact about a tree comes with its twin about a list of operands.
-/

namespace RowScope

/-- The first name of a list that satisfies a test is met before it is met again. -/
theorem find?_eraseDups (p : String → Bool) (names : List String) :
    names.eraseDups.find? p = names.find? p := by
  induction names using List.reverseRecOn with
  | nil => rfl
  | append_singleton names name ih =>
    rw [eraseDups_concat, List.find?_append]
    split
    · next met =>
      cases found : names.find? p with
      | some first => rw [ih, found, Option.some_or]
      | none =>
        have fails := List.find?_eq_none.1 found name met
        rw [ih, found, Option.none_or, List.find?_cons_of_neg fails, List.find?_nil]
    · rw [List.find?_append, ih]

namespace Expr

/-! ## Substitution -/

mutual

/-- The expression with a literal for every parameter that has a value. -/
def substitute (values : Dict Value) : Expr → Expr
  | .field name => .field name
  | .param name =>
    match values.get? name with
    | some v => .literal v
    | none => .param name
  | .literal v => .literal v
  | .compare op l r => .compare op (substitute values l) (substitute values r)
  | .conj es => .conj (substituteAll values es)
  | .disj es => .disj (substituteAll values es)
  | .neg e => .neg (substitute values e)

/-- The operands with literals for their parameters. -/
def substituteAll (values : Dict Value) : List Expr → List Expr
  | [] => []
  | e :: es => substitute values e :: substituteAll values es

end

/-- Whether a parameter has no value. -/
def lacks (values : Dict Value) (name : String) : Bool := !values.contains name

variable {filter : String} {values : Dict Value}

/-! ## References that are left -/

mutual

/-- The parameters that are left are those without a value. -/
theorem paramOccurrences_substitute : ∀ e : Expr,
    (e.substitute values).paramOccurrences = e.paramOccurrences.filter (lacks values)
  | .field _ => rfl
  | .param name => by
    rw [substitute, paramOccurrences, List.filter_singleton, lacks, Dict.contains]
    cases values.get? name with
    | some v => rfl
    | none => rfl
  | .literal _ => rfl
  | .compare _ l r => by
    rw [substitute, paramOccurrences, paramOccurrences, List.filter_append,
      paramOccurrences_substitute l, paramOccurrences_substitute r]
  | .conj es => paramOccurrencesAll_substituteAll es
  | .disj es => paramOccurrencesAll_substituteAll es
  | .neg e => paramOccurrences_substitute e

theorem paramOccurrencesAll_substituteAll : ∀ es : List Expr,
    paramOccurrencesAll (substituteAll values es) =
      (paramOccurrencesAll es).filter (lacks values)
  | [] => rfl
  | e :: es => by
    rw [substituteAll, paramOccurrencesAll, paramOccurrencesAll, List.filter_append,
      paramOccurrences_substitute e, paramOccurrencesAll_substituteAll es]

end

mutual

/-- No field comes in and none is lost. -/
theorem fieldOccurrences_substitute : ∀ e : Expr,
    (e.substitute values).fieldOccurrences = e.fieldOccurrences
  | .field _ => rfl
  | .param name => by
    rw [substitute]
    cases values.get? name with
    | some v => rfl
    | none => rfl
  | .literal _ => rfl
  | .compare _ l r => by
    rw [substitute, fieldOccurrences, fieldOccurrences, fieldOccurrences_substitute l,
      fieldOccurrences_substitute r]
  | .conj es => fieldOccurrencesAll_substituteAll es
  | .disj es => fieldOccurrencesAll_substituteAll es
  | .neg e => fieldOccurrences_substitute e

theorem fieldOccurrencesAll_substituteAll : ∀ es : List Expr,
    fieldOccurrencesAll (substituteAll values es) = fieldOccurrencesAll es
  | [] => rfl
  | e :: es => by
    rw [substituteAll, fieldOccurrencesAll, fieldOccurrencesAll, fieldOccurrences_substitute e,
      fieldOccurrencesAll_substituteAll es]

end

mutual

/-- Without parameters there is nothing to substitute for. -/
theorem substitute_eq_self : ∀ e : Expr, e.paramOccurrences = [] → e.substitute values = e
  | .field _, _ => rfl
  | .param _, free => by cases free
  | .literal _, _ => rfl
  | .compare op l r, free => by
    obtain ⟨freeLeft, freeRight⟩ := List.append_eq_nil_iff.1 free
    rw [substitute, substitute_eq_self l freeLeft, substitute_eq_self r freeRight]
  | .conj es, free => by rw [substitute, substituteAll_eq_self es free]
  | .disj es, free => by rw [substitute, substituteAll_eq_self es free]
  | .neg e, free => by rw [substitute, substitute_eq_self e free]

theorem substituteAll_eq_self : ∀ es : List Expr, paramOccurrencesAll es = [] →
    substituteAll values es = es
  | [], _ => rfl
  | e :: es, free => by
    obtain ⟨freeHead, freeTail⟩ := List.append_eq_nil_iff.1 free
    rw [substituteAll, substitute_eq_self e freeHead, substituteAll_eq_self es freeTail]

end

/-! ## Binding -/

/-- A result, unless a parameter is missing. -/
def unlessMissing {α : Type} (filter : String) (missing : Option String) (result : α) :
    Except FilterError α :=
  match missing with
  | some name => .error (.missingBinding filter name)
  | none => .ok result

/-- Two stages that need values lack the first one that either of them lacks. -/
theorem unlessMissing_bind {α β γ : Type} (filter : String) (first second : Option String)
    (a : α) (b : β) (join : α → β → γ) :
    (do
      let x ← unlessMissing filter first a
      let y ← unlessMissing filter second b
      pure (join x y)) = unlessMissing filter (first.or second) (join a b) := by
  cases first with
  | some name => rfl
  | none =>
    cases second with
    | some name => rfl
    | none => rfl

theorem unlessMissing_map {α β : Type} (filter : String) (missing : Option String) (a : α)
    (f : α → β) :
    (do
      let x ← unlessMissing filter missing a
      pure (f x)) = unlessMissing filter missing (f a) := by
  cases missing with
  | some name => rfl
  | none => rfl

mutual

/-- **Binding substitutes** unless a parameter has no value, and then reports the first one
from left to right. -/
theorem bind_eq : ∀ e : Expr,
    bind filter values e =
      unlessMissing filter (e.paramOccurrences.find? (lacks values)) (e.substitute values)
  | .field _ => rfl
  | .param name => by
    rw [bind, substitute, paramOccurrences, List.find?_singleton, lacks, Dict.contains]
    cases values.get? name with
    | some v => rfl
    | none => rfl
  | .literal _ => rfl
  | .compare op l r => by
    rw [bind, bind_eq l, bind_eq r, paramOccurrences, List.find?_append]
    exact unlessMissing_bind filter _ _ _ _ (compare op)
  | .conj es => by
    rw [bind, bindAll_eq es]
    exact unlessMissing_map filter _ _ conj
  | .disj es => by
    rw [bind, bindAll_eq es]
    exact unlessMissing_map filter _ _ disj
  | .neg e => by
    rw [bind, bind_eq e]
    exact unlessMissing_map filter _ _ neg

theorem bindAll_eq : ∀ es : List Expr,
    bindAll filter values es =
      unlessMissing filter ((paramOccurrencesAll es).find? (lacks values))
        (substituteAll values es)
  | [] => rfl
  | e :: es => by
    rw [bindAll, bind_eq e, bindAll_eq es, paramOccurrencesAll, List.find?_append]
    exact unlessMissing_bind filter _ _ _ _ List.cons

end

theorem unlessMissing_eq_ok_iff {α : Type} {filter : String} {missing : Option String}
    {result a : α} :
    unlessMissing filter missing result = .ok a ↔ missing = none ∧ result = a := by
  cases missing with
  | some name => simp [unlessMissing]
  | none => simp [unlessMissing]

theorem unlessMissing_eq_error_iff {α : Type} {filter : String} {missing : Option String}
    {result : α} {error : FilterError} :
    unlessMissing filter missing result = .error error ↔
      ∃ name, missing = some name ∧ error = .missingBinding filter name := by
  cases missing with
  | some name => simp [unlessMissing, eq_comm]
  | none => simp [unlessMissing]

/-- No referenced parameter lacks a value exactly if each of them has one. -/
theorem find?_lacks_eq_none_iff {e : Expr} :
    e.params.find? (lacks values) = none ↔ ∀ name ∈ e.params, values.contains name = true := by
  simp [List.find?_eq_none, lacks]

/-- **Binding is substitution.**  It succeeds exactly if every parameter that the template
refers to has a value, and fails for the first of them that has none.  The bound expression
has no parameters, the fields of the template in their order, and as a predicate on every
row the value of the template in the environment of the values; a template without
parameters stays as it is.  Only the values of the parameters referred to matter. -/
theorem bind_exact (filter : String) (values : Dict Value) (e : Expr) :
    ((∃ bound, bind filter values e = .ok bound) ↔
        ∀ name ∈ e.params, values.contains name = true) ∧
      (∀ error, bind filter values e = .error error ↔
        ∃ name, e.params.find? (fun name => !values.contains name) = some name ∧
          error = .missingBinding filter name) ∧
      (∀ bound, bind filter values e = .ok bound →
        bound = e.substitute values ∧ bound.params = [] ∧ bound.fields = e.fields ∧
          (e.params = [] → bound = e) ∧
          ∃ p, Predicate.compile bound = .ok p ∧
            ∀ row, p.eval row = e.value (environment values) row) ∧
      ∀ values' : Dict Value, (∀ name ∈ e.params, values'.get? name = values.get? name) →
        bind filter values' e = bind filter values e := by
  have exact : bind filter values e =
      unlessMissing filter (e.params.find? (lacks values)) (e.substitute values) := by
    rw [bind_eq, params, find?_eraseDups]
  refine ⟨?_, ?_, ?_, ?_⟩
  · rw [← find?_lacks_eq_none_iff, exact]
    simp [unlessMissing_eq_ok_iff]
  · intro error
    rw [exact, unlessMissing_eq_error_iff]
    rfl
  · intro bound done
    obtain ⟨complete, rfl⟩ := unlessMissing_eq_ok_iff.1 (exact ▸ done)
    have free : (e.substitute values).paramOccurrences = [] := by
      rw [paramOccurrences_substitute, List.filter_eq_nil_iff]
      intro name member
      exact List.find?_eq_none.1 complete name (List.mem_eraseDups.2 member)
    obtain ⟨p, compiled⟩ := exists_compile _ free
    refine ⟨rfl, ?_, ?_, ?_, p, compiled, ?_⟩
    · rw [params, free, List.eraseDups_nil]
    · rw [fields, fieldOccurrences_substitute, fields]
    · intro closed
      refine substitute_eq_self e (List.eq_nil_iff_forall_not_mem.2 fun name member => ?_)
      have listed : name ∈ e.params := List.mem_eraseDups.2 member
      rw [closed] at listed
      cases listed
    · intro row
      rw [Predicate.eval_eq_value (environment values), Predicate.toExpr_of_compile _ compiled]
      exact value_of_bind _ row e done
  · intro values' agree
    exact bind_congr e fun name member => agree name (List.mem_eraseDups.2 member)

/-! Of the parameters without a value the first one from left to right is the error, however
deep it stands. -/

example :
    bind "range" (.ofList [("least", .int 1)])
      (.conj [.compare .ge (.field "id") (.param "least"),
        .neg (.disj [.compare .gt (.field "id") (.param "most")]), .param "visible"]) =
      .error (.missingBinding "range" "most") := rfl

end Expr

end RowScope
