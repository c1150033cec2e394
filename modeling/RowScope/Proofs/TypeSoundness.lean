import RowScope.Proofs.Comparison
import RowScope.Proofs.Typing

/-!
# Well-typed templates do not go wrong

What a check of a template finds out about its parts holds of their values, once every
parameter has a value that its type accepts and the row keeps to the schema.

* `Expr.HasType.accepts_value`: a part with a type has a value of it.  A field may be
  null instead, and only a field.
* `Expr.HasType.eq_null`: a part without a type is the null literal.
* `Expr.HasType.comparable_values`: the operands of a comparison have values of types
  that stand in an order.
* `Expr.HasType.yields`: binding and compiling a part never fails.
* `Template.resolve_sound` says all of it of every part of a resolved template.
-/

namespace RowScope

/-- Every parameter has a value that its type accepts. -/
def Template.Supplied (params : List Parameter) (values : Dict Value) : Prop :=
  ∀ p ∈ params, ∃ v, values.get? p.name = some v ∧ p.type.accepts v = true

/-- Every field of a schema is absent from a row, or null, or has a value that its type
accepts. -/
def Schema.Fits (schema : Schema) (row : Row) : Prop :=
  ∀ name f, schema.field? name = some f → ∀ v, row.fields.get? name = some v →
    v = .null ∨ f.type.accepts v = true

/-- What an expression comes to on a row after its parameters were bound. -/
def Expr.Yields (filter : String) (values : Dict Value) (row : Row) (e : Expr)
    (v : Value) : Prop :=
  ∃ p, e.bind filter values >>= Predicate.compile = .ok p ∧ p.eval row = v

theorem Value.exists_bool {v : Value} (isBool : v.scalarType = some .bool) :
    ∃ b, v = .bool b := by
  cases v with
  | bool b => exact ⟨b, rfl⟩
  | _ => cases isBool

namespace Expr

variable {schema : Schema} {params : List Parameter} {values : Dict Value} {row : Row}
  {e l r : Expr} {type : Option ScalarType}

/-! ## Values of typed expressions -/

/-- A bound expression yields the value of the template in the environment of the
bound values. -/
theorem yields_value (filter : String) (row : Row)
    (supplied : ∀ name ∈ e.paramOccurrences, values.contains name = true) :
    e.Yields filter values row (e.value (environment values) row) := by
  obtain ⟨p, bound⟩ := exists_bind filter e supplied
  refine ⟨p, ?_, ?_⟩
  · rw [bound]
    exact Predicate.compile_toExpr p
  · rw [Predicate.eval_eq_value (environment values), value_of_bind _ row e bound]

/-- A well-typed expression can be bound and compiled. -/
theorem HasType.yields (typed : e.HasType schema params type)
    (supplied : Template.Supplied params values) (filter : String) (row : Row) :
    e.Yields filter values row (e.value (environment values) row) := by
  refine yields_value filter row fun name member => ?_
  obtain ⟨u, found⟩ := typed.exists_infer .empty
  obtain ⟨p, declared⟩ := Template.declared_of_infer e found name member
  obtain ⟨declaredIn, rfl⟩ := Template.mem_of_declaration? declared
  obtain ⟨v, given, -⟩ := supplied p declaredIn
  rw [Dict.contains, given]
  rfl

section Values

variable (supplied : Template.Supplied params values) (fits : schema.Fits row)

include supplied fits

/-- An expression with a type has a value of it; only a field may be null. -/
theorem HasType.accepts_value {t : ScalarType} (typed : e.HasType schema params (some t)) :
    t.accepts (e.value (environment values) row) = true ∨
      (e.value (environment values) row = .null ∧ ∃ name, e = .field name) := by
  generalize isTyped : some t = type at typed
  cases typed with
  | @field name f declared =>
    cases isTyped
    rw [value, Row.read]
    cases given : row.fields.get? name with
    | none => exact .inr ⟨rfl, name, rfl⟩
    | some v =>
      rcases fits name f declared v given with rfl | accepted
      · exact .inr ⟨rfl, name, rfl⟩
      · exact .inl accepted
  | @param name p declared =>
    cases isTyped
    obtain ⟨declaredIn, rfl⟩ := Template.mem_of_declaration? declared
    obtain ⟨v, given, accepted⟩ := supplied p declaredIn
    rw [value, environment, given]
    exact .inl accepted
  | literal v =>
    refine .inl (ScalarType.accepts_iff.2 (.inl ?_))
    exact isTyped.symm
  | neg _ =>
    -- the negation of whatever value is a truth value
    cases isTyped
    rw [value]
    split
    · exact .inl rfl
    · exact .inl rfl
  | compare _ _ _ | conj _ | disj _ =>
    cases isTyped
    exact .inl rfl

omit supplied fits in
/-- An expression without a type is the null literal. -/
theorem HasType.eq_null (typed : e.HasType schema params none) : e = .literal .null := by
  generalize untyped : none = type at typed
  cases typed with
  | literal v =>
    cases v with
    | null => rfl
    | _ => cases untyped
  | _ => cases untyped

/-- The type of the value of an expression stands in an order to the type of the
expression. -/
theorem HasType.comparableWith_value (typed : e.HasType schema params type) {s : ScalarType}
    (own : (e.value (environment values) row).scalarType = some s) :
    ∃ t ∈ type, s.comparableWith t = true := by
  cases type with
  | none =>
    rw [typed.eq_null] at own
    cases own
  | some t =>
    refine ⟨t, rfl, ?_⟩
    rcases typed.accepts_value supplied fits with accepted | ⟨null, -⟩
    · exact ScalarType.comparableWith_of_accepts accepted own
    · rw [null] at own
      cases own

/-- The operands of a comparison have values of types that stand in an order. -/
theorem HasType.comparable_values {op : Comparison}
    (typed : (Expr.compare op l r).HasType schema params type) :
    ∀ s ∈ (l.value (environment values) row).scalarType,
      ∀ t ∈ (r.value (environment values) row).scalarType, s.comparableWith t = true := by
  cases typed with
  | compare typedLeft typedRight alike =>
    intro s ownLeft t ownRight
    obtain ⟨left, isLeft, first⟩ := typedLeft.comparableWith_value supplied fits ownLeft
    obtain ⟨right, isRight, last⟩ := typedRight.comparableWith_value supplied fits ownRight
    have between := alike left isLeft right isRight
    exact ScalarType.comparableWith_trans (ScalarType.comparableWith_trans first between)
      (ScalarType.comparableWith_symm last)

end Values

end Expr

/-! ## Resolved templates -/

namespace Template

theorem hasType_of_resolve {schema : Schema} {params : List Parameter} {e : Expr}
    {t : Template} (resolved : resolve schema params e = .ok t) :
    e.HasType schema params (some .bool) :=
  Expr.hasType_of_infer e (resolve_eq_ok_iff.1 resolved).2.2

/-- **Resolved templates are type-sound.**  Let every parameter have a value that its
type accepts, and let a row keep to the schema.

Every part of the template has a type that the check gives it, or is untyped, and it
can be bound and evaluated.  Its value is of the type, or an integer for a float, or,
if the part is a field, null.  The operands of a comparison have values whose types
stand in an order, so they have no order only because one is null and the other is not,
or because of a NaN.  The template itself is a truth value, unless it is a field that
reads as null. -/
theorem resolve_sound {schema : Schema} {params : List Parameter} {e : Expr} {t : Template}
    (resolved : resolve schema params e = .ok t) {values : Dict Value}
    (supplied : Supplied params values) {row : Row} (fits : schema.Fits row)
    (filter : String) :
    (∀ part : Expr, part.Part e → ∃ type v,
      (∀ u, ∃ u', infer schema params u part = .ok (type, u')) ∧
      part.Yields filter values row v ∧
      ∀ s ∈ type, v.scalarType = some s ∨ (s = .float ∧ v.scalarType = some .int) ∨
        (v = .null ∧ ∃ name, part = .field name)) ∧
    (∀ op l r, (Expr.compare op l r).Part e → ∃ a b,
      l.Yields filter values row a ∧ r.Yields filter values row b ∧
      (∀ s ∈ a.scalarType, ∀ s' ∈ b.scalarType, s.comparableWith s' = true) ∧
      (a.compare b = none ↔ a.isNull ≠ b.isNull ∨ a.isNaN = true ∨ b.isNaN = true)) ∧
    ∃ v, e.Yields filter values row v ∧
      ((∃ b, v = .bool b) ∨ (v = .null ∧ ∃ name, e = .field name)) := by
  have whole := hasType_of_resolve resolved
  refine ⟨?_, ?_, ?_⟩
  · intro part inside
    obtain ⟨type, typed⟩ := whole.exists_of_part inside
    refine ⟨type, _, typed.exists_infer, typed.yields supplied filter row, ?_⟩
    rintro s ⟨⟩
    rcases typed.accepts_value supplied fits with accepted | null
    · rcases ScalarType.accepts_iff.1 accepted with same | widened
      · exact .inl same
      · exact .inr (.inl widened)
    · exact .inr (.inr null)
  · intro op l r inside
    obtain ⟨type, typed⟩ := whole.exists_of_part inside
    have alike := typed.comparable_values supplied fits
    cases typed with
    | compare typedLeft typedRight _ =>
      exact ⟨_, _, typedLeft.yields supplied filter row, typedRight.yields supplied filter row,
        alike, Value.compare_eq_none_iff alike⟩
  · refine ⟨_, whole.yields supplied filter row, ?_⟩
    rcases whole.accepts_value supplied fits with accepted | null
    · rcases ScalarType.accepts_iff.1 accepted with same | ⟨isFloat, -⟩
      · exact .inl (Value.exists_bool same)
      · cases isFloat
    · exact .inr null

/-! Scores are floats, but the row and the bound value have integers; it is not known
whether the post is hidden. -/

/-- Posts with a score. -/
def scored : Schema :=
  ⟨"Post", "id", [⟨"id", .int⟩, ⟨"score", .float⟩, ⟨"hidden", .bool⟩, ⟨"title", .text⟩]⟩

/-- The posts that are not hidden, have a title and at least some score, and of which
it is known whether they are late. -/
def topPosts : Expr :=
  .conj [.neg (.field "hidden"), .compare .ne (.field "title") (.literal .null),
    .compare .ge (.field "score") (.param "least"),
    .compare .eq (.compare .gt (.field "id") (.literal (.int 1))) (.param "late")]

theorem resolve_sound_topPosts :
    let values : Dict Value := .ofList [("least", .int 3), ("late", .bool true)]
    let row : Row := ⟨"Post", .ofList [("id", .int 2), ("score", .int 4), ("title", .null)]⟩
    (∃ b, topPosts.Yields "top" values row (.bool b)) ∧
      ∃ a b, (Expr.field "score").Yields "top" values row a ∧
        (Expr.param "least").Yields "top" values row b ∧
        (a.compare b = none ↔ a.isNull ≠ b.isNull ∨ a.isNaN = true ∨ b.isNaN = true) := by
  intro values row
  obtain ⟨t, resolved⟩ : ∃ t, resolve scored
      [⟨"least", .float, none⟩, ⟨"late", .bool, none⟩] topPosts = .ok t := ⟨_, rfl⟩
  have supplied : Supplied [⟨"least", .float, none⟩, ⟨"late", .bool, none⟩] values := by
    intro p member
    simp only [List.mem_cons, List.not_mem_nil, or_false] at member
    rcases member with rfl | rfl
    · exact ⟨.int 3, rfl, rfl⟩
    · exact ⟨.bool true, rfl, rfl⟩
  have fits : scored.Fits row := by
    have each : ∀ entry ∈ row.fields.entries, ∀ f ∈ scored.field? entry.1,
        entry.2 = .null ∨ f.type.accepts entry.2 = true := by decide
    intro name f declared v given
    exact each (name, v) (Dict.mem_entries_iff.2 given) f declared
  obtain ⟨-, comparisons, v, yielded, isBool | ⟨-, name, isField⟩⟩ :=
    resolve_sound resolved supplied fits "top"
  · obtain ⟨b, rfl⟩ := isBool
    refine ⟨⟨b, yielded⟩, ?_⟩
    obtain ⟨a, b', first, second, -, ordered⟩ := comparisons .ge (.field "score") (.param "least")
      (.conj (by simp) .whole)
    exact ⟨a, b', first, second, ordered⟩
  · cases isField

end Template

end RowScope
