import RowScope.Proofs.NumericOrder
import RowScope.Proofs.Registry
import RowScope.Proofs.Typing

/-!
# Integers in the place of floats

Where a float is declared, an integer is kept as the float nearest to it.  A template sees
the difference only where it compares that value with an integer: two integers compare as
what they are, but as floats two different ones may be equal.

* `Value.Widens` relates a value to one that it may be kept as, and `Value.Confused` says
  which integers floats do not tell apart.  `Widens.apply_eq_or` is one comparison.
* `Double.eq_of_rank_eq_of_lt`: nothing is confused with an integer below `2 ^ 53`.
* `Expr.widens_value`: if no comparison of a template is confused, its value is the same
  up to widening, by induction on the template.
* `Definition.Confuses` says for a definition which rows are at stake, and
  `Definition.holds_coerced_iff` that on all others the declared types make no difference.
-/

namespace RowScope

open Number

/-! ## Integers that doubles tell apart -/

namespace Number.Double

variable {n m : Int}

/-- Two integers that doubles stand for are told apart. -/
theorem eq_of_rank_eq (small : n.natAbs ≤ 2 * fractions) (small' : m.natAbs ≤ 2 * fractions)
    (same : (ofInt n).rank = (ofInt m).rank) : n = m := by
  have bounded : 2 * fractions ≤ signedBound := by decide
  have number := isNaN_ofInt m
  have first := (isExact_iff (small.trans bounded)).1 (isExact_of_le small) _ number
  have second := (isExact_iff (small'.trans bounded)).1 (isExact_of_le small') _ number
  rw [Int.compare_eq_eq.2 same] at first
  rw [Int.compare_eq_eq.2 rfl] at second
  have units := (order_eq_iff.1 first.symm).2.trans (order_eq_iff.1 second.symm).2.symm
  exact Int.eq_of_mul_eq_mul_right (Int.natCast_ne_zero.2 (Nat.ne_of_gt unitsPerOne_pos)) units

/-- A double that stands for a small integer is not the nearest one to any other: it is not
even the nearest one to a neighbour. -/
theorem eq_of_rank_eq_of_lt (small : n.natAbs < 2 * fractions)
    (same : (ofInt n).rank = (ofInt m).rank) : n = m := by
  rcases Int.lt_trichotomy n m with below | equal | above
  · have up : (ofInt n).rank = (ofInt (n + 1)).rank :=
      Int.le_antisymm (rank_ofInt_mono (by omega))
        (same ▸ rank_ofInt_mono (Int.add_one_le_of_lt below))
    have neighbours := eq_of_rank_eq (by omega) (by omega) up
    omega
  · exact equal
  · have down : (ofInt n).rank = (ofInt (n - 1)).rank :=
      Int.le_antisymm (same ▸ rank_ofInt_mono (Int.le_sub_one_of_lt above))
        (rank_ofInt_mono (by omega))
    have neighbours := eq_of_rank_eq (by omega) (by omega) down
    omega

end Number.Double

/-! ## Values -/

namespace Value

/-- A value and one that it is kept as: itself, or the float nearest to an integer. -/
inductive Widens : Value → Value → Prop
  | same (v : Value) : Widens v v
  | int (n : Int64) : Widens (.int n) (.float (widen n))

/-- Two different integers that are equal as floats. -/
def Confused (m n : Int64) : Prop := m ≠ n ∧ (widen m).compare (widen n) = some .eq

instance (m n : Int64) : Decidable (Confused m n) := inferInstanceAs (Decidable (_ ∧ _))

variable {v v' w w' : Value} {m n : Int64}

theorem Confused.symm (confused : Confused m n) : Confused n m := by
  refine ⟨confused.1.symm, ?_⟩
  have swapped := compare_swap (.float (widen m)) (.float (widen n))
  exact swapped.trans (congrArg (Option.map Ordering.swap) confused.2)

/-- Nothing is confused with a small integer. -/
theorem not_confused_of_lt (small : m.toInt.natAbs < 2 ^ 53) : ¬ Confused m n := by
  rintro ⟨apart, equal⟩
  rw [compare_double (isNaN_widen m) (isNaN_widen n), Option.some_inj,
    Int.compare_eq_eq] at equal
  exact apart (Int64.toInt_inj.1 (Double.eq_of_rank_eq_of_lt small equal))

/-- As floats two integers compare as what they are, unless they are confused. -/
theorem compare_widen_or (m n : Int64) :
    (widen m).compare (widen n) = some (Ord.compare m.toInt n.toInt) ∨ Confused m n := by
  rw [Confused, compare_double (isNaN_widen m) (isNaN_widen n), Option.some_inj, Option.some_inj,
    Int.compare_eq_eq]
  rcases Int.lt_trichotomy m.toInt n.toInt with below | equal | above
  · have le := rank_widen_mono (Int.le_of_lt below)
    rcases Int.lt_or_eq_of_le le with less | same
    · exact .inl ((Int.compare_eq_lt.2 less).trans (Int.compare_eq_lt.2 below).symm)
    · refine .inr ⟨?_, same⟩
      rintro rfl
      exact Int.lt_irrefl _ below
  · obtain rfl := Int64.toInt_inj.1 equal
    exact .inl ((Int.compare_eq_eq.2 rfl).trans (Int.compare_eq_eq.2 rfl).symm)
  · have le := rank_widen_mono (Int.le_of_lt above)
    rcases Int.lt_or_eq_of_le le with less | same
    · exact .inl ((Int.compare_eq_gt.2 less).trans (Int.compare_eq_gt.2 above).symm)
    · refine .inr ⟨?_, same.symm⟩
      rintro rfl
      exact Int.lt_irrefl _ above

theorem widens_coerce (type : ScalarType) (v : Value) : Widens v (type.coerce v) := by
  unfold ScalarType.coerce
  split
  · exact .int _
  · exact .same v

theorem Widens.isNull_eq (widens : Widens v v') : v'.isNull = v.isNull := by
  cases widens with
  | same v => rfl
  | int n => rfl

theorem Widens.isTrue_eq (widens : Widens v v') : v'.isTrue = v.isTrue := by
  cases widens with
  | same v => rfl
  | int n => rfl

/-- Two values compare as before they were widened, unless these are integers that are
confused and one of them was. -/
theorem Widens.compare_eq_or (left : Widens v v') (right : Widens w w') :
    v'.compare w' = v.compare w ∨
      ∃ m n, v = .int m ∧ w = .int n ∧ Confused m n ∧ (v' ≠ v ∨ w' ≠ w) := by
  have changed : ∀ k : Int64, Value.float (widen k) ≠ .int k := fun k same => by cases same
  cases left with
  | same v =>
    cases right with
    | same w => exact .inl rfl
    | int n =>
      cases v with
      | int m =>
        exact (compare_widen_or m n).imp id fun confused =>
          ⟨m, n, rfl, rfl, confused, .inr (changed n)⟩
      | null | bool | float | text => exact .inl rfl
  | int m =>
    cases right with
    | same w =>
      cases w with
      | int n =>
        exact (compare_widen_or m n).imp id fun confused =>
          ⟨m, n, rfl, rfl, confused, .inl (changed m)⟩
      | null | bool | float | text => exact .inl rfl
    | int n =>
      exact (compare_widen_or m n).imp id fun confused =>
        ⟨m, n, rfl, rfl, confused, .inl (changed m)⟩

/-- So every operator says the same of them. -/
theorem Widens.apply_eq_or (op : Comparison) (left : Widens v v') (right : Widens w w') :
    op.apply v' w' = op.apply v w ∨
      ∃ m n, v = .int m ∧ w = .int n ∧ Confused m n ∧ (v' ≠ v ∨ w' ≠ w) := by
  refine (left.compare_eq_or right).imp_left fun same => ?_
  rw [Comparison.apply, Comparison.apply, same, left.isNull_eq, right.isNull_eq]

end Value

/-! ## Expressions -/

namespace Expr

open Value (Widens Confused)

variable {env env' : String → Value} {row : Row}

/-- The operands of a comparison are integers that are confused in another environment. -/
def Confuses (env env' : String → Value) (row : Row) (l r : Expr) : Prop :=
  ∃ m n, l.value env row = .int m ∧ r.value env row = .int n ∧ Confused m n ∧
    (l.value env' row ≠ l.value env row ∨ r.value env' row ≠ r.value env row)

mutual

/-- **Widening is seen in comparisons only.**  Up to widening an expression has the same
value in an environment of widened values, if none of its comparisons is confused. -/
theorem widens_value (widens : ∀ name, Widens (env name) (env' name)) : ∀ e : Expr,
    (∀ op l r, (Expr.compare op l r).Part e → ¬ Confuses env env' row l r) →
      Widens (e.value env row) (e.value env' row)
  | .field name, _ => .same (row.read name)
  | .param name, _ => widens name
  | .literal v, _ => .same v
  | .compare op l r, clear => by
    have left := widens_value widens l fun op' l' r' part => clear op' l' r' (.left part)
    have right := widens_value widens r fun op' l' r' part => clear op' l' r' (.right part)
    have same := (left.apply_eq_or op right).resolve_right (clear op l r .whole)
    rw [value, value, same]
    exact .same _
  | .conj es, clear => by
    have operands := truth_widens widens es fun e member op l r part =>
      clear op l r (.conj member part)
    rw [value, value, operands.1]
    exact .same _
  | .disj es, clear => by
    have operands := truth_widens widens es fun e member op l r part =>
      clear op l r (.disj member part)
    rw [value, value, operands.2]
    exact .same _
  | .neg e, clear => by
    have operand := widens_value widens e fun op l r part => clear op l r (.neg part)
    rw [value, value]
    generalize e.value env row = v at operand
    generalize e.value env' row = v' at operand
    cases operand with
    | same v => exact .same _
    | int n => exact .same _

theorem truth_widens (widens : ∀ name, Widens (env name) (env' name)) : ∀ es : List Expr,
    (∀ e ∈ es, ∀ op l r, (Expr.compare op l r).Part e → ¬ Confuses env env' row l r) →
      allTrue env row es = allTrue env' row es ∧ anyTrue env row es = anyTrue env' row es
  | [], _ => ⟨rfl, rfl⟩
  | e :: es, clear => by
    obtain ⟨first, rest⟩ := List.forall_mem_cons.1 clear
    have head := (widens_value widens e first).isTrue_eq
    obtain ⟨all, any⟩ := truth_widens widens es rest
    rw [allTrue, allTrue, anyTrue, anyTrue, head, all, any]
    exact ⟨rfl, rfl⟩

end

/-- What holds does so in an environment of widened values, too, and nothing else does. -/
theorem holds_widened_iff (widens : ∀ name, Widens (env name) (env' name)) {e : Expr}
    (clear : ∀ op l r, (Expr.compare op l r).Part e → ¬ Confuses env env' row l r) :
    e.Holds env' row ↔ e.Holds env row := by
  rw [Holds, Holds, ← Value.isTrue_iff, ← Value.isTrue_iff,
    (widens_value widens e clear).isTrue_eq]

/-- An operand that is an integer in one environment and not the same in another one is a
parameter. -/
theorem exists_param_of_ne {m : Int64} : ∀ {e : Expr}, e.value env row = .int m →
    e.value env' row ≠ e.value env row → ∃ name, e = .param name ∧ env' name ≠ env name
  | .field _, _, changed => absurd rfl changed
  | .param name, _, changed => ⟨name, rfl, changed⟩
  | .literal _, _, changed => absurd rfl changed
  | .compare _ _ _, number, _ => by cases number
  | .conj _, number, _ => by cases number
  | .disj _, number, _ => by cases number
  | .neg e, number, _ => by
    rw [value] at number
    split at number
    · cases number
    · cases number

end Expr

/-! ## Definitions -/

namespace Definition

variable {catalog : Catalog} {d : Definition} {values : Dict Value} {row : Row}

/-- The values of an environment as they are kept where the parameters of a definition are
declared. -/
def coerced (d : Definition) (env : String → Value) (name : String) : Value :=
  match d.parameter? name with
  | some p => p.type.coerce (env name)
  | none => env name

/-- An operand is a parameter that is declared as a float. -/
def IsFloat (d : Definition) (e : Expr) : Prop :=
  ∃ name p, e = .param name ∧ d.parameter? name = some p ∧ p.type = .float

/-- Somewhere in its template, a definition compares an integer that is given to a float
parameter with another integer that is equal to it as a float. -/
def Confuses (d : Definition) (values : Dict Value) (row : Row) : Prop :=
  ∃ op l r, (Expr.compare op l r).Part d.template.expr ∧ (d.IsFloat l ∨ d.IsFloat r) ∧
    ∃ m n, l.value (Expr.environment values) row = .int m ∧
      r.value (Expr.environment values) row = .int n ∧ Value.Confused m n

theorem widens_coerced (d : Definition) (env : String → Value) (name : String) :
    Value.Widens (env name) (d.coerced env name) := by
  rw [coerced]
  split
  · exact Value.widens_coerce _ _
  · exact .same _

/-- Only the values of float parameters change. -/
theorem isFloat_of_coerced_ne {env : String → Value} {name : String}
    (changed : d.coerced env name ≠ env name) : d.IsFloat (.param name) := by
  rw [coerced] at changed
  split at changed
  · next p declared =>
    refine ⟨name, p, rfl, declared, ?_⟩
    unfold ScalarType.coerce at changed
    split at changed
    · next float _ => exact float
    · exact absurd rfl changed
  · exact absurd rfl changed

/-- **The declared types make no difference** on a row where nothing is confused. -/
theorem holds_coerced_iff (clear : ¬ d.Confuses values row) :
    d.template.expr.Holds (d.coerced (Expr.environment values)) row ↔
      d.template.expr.Holds (Expr.environment values) row := by
  refine Expr.holds_widened_iff (d.widens_coerced _) fun op l r part => ?_
  rintro ⟨m, n, left, right, confused, changed⟩
  refine clear ⟨op, l, r, part, changed.imp ?_ ?_, m, n, left, right, confused⟩
  · intro changed
    obtain ⟨name, rfl, apart⟩ := Expr.exists_param_of_ne left changed
    exact isFloat_of_coerced_ne apart
  · intro changed
    obtain ⟨name, rfl, apart⟩ := Expr.exists_param_of_ne right changed
    exact isFloat_of_coerced_ne apart

/-- The integers that are given to float parameters are below `2 ^ 53`. -/
def Small (d : Definition) (values : Dict Value) : Prop :=
  ∀ p ∈ d.parameters, p.type = .float → ∀ n, values.get? p.name = some (.int n) →
    n.toInt.natAbs < 2 ^ 53

/-- Then nothing is confused on any row. -/
theorem Small.not_confuses (small : d.Small values) (row : Row) : ¬ d.Confuses values row := by
  have bounded : ∀ e n, d.IsFloat e → e.value (Expr.environment values) row = .int n →
      n.toInt.natAbs < 2 ^ 53 := by
    rintro _ n ⟨name, p, rfl, declared, float⟩ number
    obtain ⟨member, rfl⟩ := Template.mem_of_declaration? declared
    rw [Expr.value, Expr.environment] at number
    cases given : values.get? p.name with
    | none =>
      rw [given] at number
      cases number
    | some v =>
      rw [given] at number
      obtain rfl : v = .int n := number
      exact small p member float n given
  rintro ⟨op, l, r, -, float, m, n, left, right, confused⟩
  rcases float with float | float
  · exact Value.not_confused_of_lt (bounded l m float left) confused
  · exact Value.not_confused_of_lt (bounded r n float right) confused.symm

end Definition

end RowScope
