import RowScope.Proofs.NumericOrder

/-!
# The laws of the six operators

What the operators say of two values is told by the order of these, as far as they have
one.

* `Comparison.reverse` is the operator for the two values the other way round
  (`apply_reverse`).
* `apply_of_ordered` and `apply_eq_false`: what an operator says with and without an order.
  From the first come the laws that relate the operators of one pair of values.
* `lt_trans`: `<` is transitive on values of all kinds.  Rounding may take a step of `<=`
  for an equality that it is not, but never a step of `<`, so that nothing collides.
* `Comparison.operator_algebra` puts these together.
-/

namespace RowScope

namespace Value

variable {a b c : Value}

/-- Every value has an order to itself except a NaN. -/
theorem compare_self_eq_iff : a.compare a = some .eq ↔ a.isNaN = false := by
  cases a with
  | null => simp [compare, isNaN]
  | bool s => simp [compare, isNaN]
  | int n => simp [compare, isNaN]
  | text s => simp [compare, isNaN]
  | float x =>
    rw [compare, isNaN]
    cases number : x.isNaN with
    | true => simp [Number.Double.compare, number]
    | false => simp [compare_double number number]

/-- A null has no order to what is none. -/
theorem compare_eq_none_of_null (apart : a.isNull ≠ b.isNull) : a.compare b = none := by
  cases a <;> cases b <;> first | rfl | exact absurd rfl apart

theorem isNull_of_compare_lt (below : a.compare b = some .lt) :
    a.isNull = false ∧ b.isNull = false := by
  cases a <;> cases b <;> first | exact ⟨rfl, rfl⟩ | cases below

/-- **Being below is transitive.**  The two steps are no equalities, so no float stands
between two integers that it equals. -/
theorem compare_lt_trans (first : a.compare b = some .lt) (second : b.compare c = some .lt) :
    a.compare c = some .lt := by
  have strict : ∀ {x y z : Value}, x.compare y = some .lt → ¬ Collides x y z := by
    rintro x y z less ⟨-, -, -, -, -, -, -, equal, -⟩
    rw [less] at equal
    cases equal
  obtain ⟨o, ordered, le⟩ :=
    (atMost_trans ⟨_, first, rfl⟩ ⟨_, second, rfl⟩).resolve_right (strict first)
  cases o with
  | lt => exact ordered
  | gt => cases le
  | eq =>
    -- then the first value is below the second one and at least as large
    have back : AtMost c a := ⟨.eq, by rw [compare_swap, ordered]; rfl, rfl⟩
    obtain ⟨o', ordered', le'⟩ :=
      (atMost_trans ⟨_, second, rfl⟩ back).resolve_right (strict second)
    rw [compare_swap, first] at ordered'
    cases ordered'
    cases le'

end Value

namespace Comparison

variable {a b c : Value}

/-! ## Two values the other way round -/

/-- The operator that says of two values what another one says of them in reverse. -/
def reverse : Comparison → Comparison
  | .eq => .eq
  | .ne => .ne
  | .lt => .gt
  | .le => .ge
  | .gt => .lt
  | .ge => .le

theorem isOrdering_reverse (op : Comparison) : op.reverse.isOrdering = op.isOrdering := by
  cases op <;> rfl

theorem admits_reverse (op : Comparison) (o : Ordering) :
    op.reverse.admits o.swap = op.admits o := by
  cases op <;> cases o <;> rfl

/-- The reverse operator says the same of the values in reverse. -/
theorem apply_reverse (op : Comparison) (a b : Value) : op.reverse.apply b a = op.apply a b := by
  rw [apply, apply, isOrdering_reverse, Bool.or_comm, Value.compare_swap a b]
  cases a.compare b with
  | none => rfl
  | some o => simp only [Option.map_some, admits_reverse]

/-! ## With and without an order -/

/-- Of values that are there, an operator says what it admits. -/
theorem apply_of_ordered (op : Comparison) {o : Ordering} (ordered : a.compare b = some o)
    (present : a.isNull = false) (present' : b.isNull = false) :
    op.apply a b = op.admits o := by
  rw [apply, ordered, present, present']
  simp

theorem apply_eq_false (op : Comparison) (unordered : a.compare b = none) :
    op.apply a b = false := by
  rw [apply, unordered]
  exact ite_self false

theorem lt_iff : lt.apply a b = true ↔ a.compare b = some .lt := by
  constructor
  · intro holds
    rw [apply] at holds
    cases ordered : a.compare b <;> simp_all [admits]
  · intro below
    obtain ⟨present, present'⟩ := Value.isNull_of_compare_lt below
    rw [apply_of_ordered _ below present present']
    rfl

theorem lt_trans (first : lt.apply a b = true) (second : lt.apply b c = true) :
    lt.apply a c = true :=
  lt_iff.2 (Value.compare_lt_trans (lt_iff.1 first) (lt_iff.1 second))

theorem lt_asymm (below : lt.apply a b = true) : lt.apply b a = false := by
  obtain ⟨present, present'⟩ := Value.isNull_of_compare_lt (lt_iff.1 below)
  have above : b.compare a = some .gt := by rw [Value.compare_swap, lt_iff.1 below]; rfl
  rw [apply_of_ordered _ above present' present]
  rfl

theorem lt_irrefl (a : Value) : lt.apply a a = false := by
  cases holds : lt.apply a a with
  | false => rfl
  | true => exact holds.symm.trans (lt_asymm holds)

/-- One of `<`, `=` and `>` admits an order, and only one. -/
theorem admits_unique (o : Ordering) : ∃! op, op ∈ [lt, eq, gt] ∧ op.admits o = true := by
  refine ⟨match o with | .lt => lt | .eq => eq | .gt => gt, by cases o <;> decide, ?_⟩
  rintro op ⟨listed, admitted⟩
  cases o <;> cases op <;>
    first
    | rfl
    | exact absurd listed (by decide)
    | exact absurd admitted (by decide)

/-- **The algebra of the operators**, on values of all kinds.  Exchanging the two values
exchanges `<` with `>` and `<=` with `>=`, and keeps `=` and `<>`.  Of two values that have
an order and are not null exactly one of `<`, `=` and `>` holds, and the other three
operators are made of these.  Without an order nothing holds; two nulls are equal and no
more than that, and of one null nothing holds.  A value equals itself unless it is a NaN,
and `<` is a strict partial order. -/
theorem operator_algebra (a b c : Value) :
    b.compare a = (a.compare b).map Ordering.swap ∧
    (lt.apply a b = gt.apply b a ∧ le.apply a b = ge.apply b a ∧
      eq.apply a b = eq.apply b a ∧ ne.apply a b = ne.apply b a) ∧
    (a.compare b ≠ none → a.isNull = false → b.isNull = false →
      (∃! op, op ∈ [lt, eq, gt] ∧ op.apply a b = true) ∧
        le.apply a b = (lt.apply a b || eq.apply a b) ∧
        ge.apply a b = (gt.apply a b || eq.apply a b) ∧ ne.apply a b = !eq.apply a b) ∧
    (a.compare b = none → ∀ op : Comparison, op.apply a b = false) ∧
    (∀ op : Comparison, op.apply .null .null = true ↔ op = .eq) ∧
    (a.isNull ≠ b.isNull → ∀ op : Comparison, op.apply a b = false) ∧
    (eq.apply a a = true ↔ a.isNaN = false) ∧
    lt.apply a a = false ∧
    (lt.apply a b = true → lt.apply b a = false) ∧
    (lt.apply a b = true → lt.apply b c = true → lt.apply a c = true) := by
  refine ⟨Value.compare_swap a b, ?_, ?_, fun unordered op => apply_eq_false op unordered, ?_,
    fun apart op => apply_eq_false op (Value.compare_eq_none_of_null apart), ?_, lt_irrefl a,
    lt_asymm, lt_trans⟩
  · exact ⟨(apply_reverse lt a b).symm, (apply_reverse le a b).symm,
      (apply_reverse eq a b).symm, (apply_reverse ne a b).symm⟩
  · intro defined present present'
    obtain ⟨o, ordered⟩ := Option.ne_none_iff_exists'.1 defined
    simp only [fun op => apply_of_ordered op ordered present present']
    refine ⟨admits_unique o, ?_⟩
    cases o <;> decide
  · intro op
    cases op <;> decide
  · rw [apply_eq_iff, Value.compare_self_eq_iff]

end Comparison

end RowScope
