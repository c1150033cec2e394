import RowScope.Proofs.Rounding
import Mathlib.Data.Int.Order.Basic

/-!
# Integers among floats

An integer is compared with a float by way of the double nearest to it.  That never
turns an order round, but may take an integer for a float that it is not.

* `compare_int_float` says what that comes to against the exact values.
* `AtMost` is the order that `<=` asks for.  Numbers keep it as places among the doubles
  (`place_le_of_atMost`), so it is transitive wherever the outer values are compared by
  these places, too; two integers are not, and hence `Collides`.
* `Comparison.numeric_up_to_rounding`: that is the only way in which equality and
  `<=` fail to be transitive.
-/

namespace RowScope

open Number

namespace Value

theorem natAbs_toInt_le (n : Int64) : n.toInt.natAbs ≤ signedBound := by
  have bound : signedBound = 9223372036854775808 := rfl
  have low := n.le_toInt
  have high := n.toInt_lt
  rw [bound]
  omega

theorem compare_double {x y : Double} (first : x.isNaN = false) (second : y.isNaN = false) :
    x.compare y = some (Ord.compare x.rank y.rank) := by
  rw [Double.compare, first, second]
  rfl

theorem isNaN_widen (n : Int64) : (widen n).isNaN = false := Double.isNaN_ofInt _

/-! ## Against the exact values -/

/-- An integer compares with a float as it does by its exact value, or as equal. -/
theorem compare_int_float (n : Int64) {x : Double} (number : x.isNaN = false) :
    (int n).compare (.float x) = some (Double.order n.toInt x) ∨
      (int n).compare (.float x) = some .eq := by
  rw [compare, compare_double (isNaN_widen n) number, widen, Option.some_inj, Option.some_inj]
  exact Double.compare_rank_ofInt (natAbs_toInt_le n) number

/-- The other way round, two values compare in reverse. -/
theorem compare_swap (a b : Value) : b.compare a = (a.compare b).map Ordering.swap := by
  have swapped : ∀ x y : Double, y.compare x = (x.compare y).map Ordering.swap := by
    intro x y
    rw [Double.compare, Double.compare, Bool.or_comm]
    split
    · rfl
    · rw [Option.map_some, ← Std.OrientedOrd.eq_swap]
  cases a <;> cases b <;>
    first
    | rfl
    | exact swapped _ _
    | exact congrArg some Std.OrientedOrd.eq_swap

theorem isExact_iff (n : Int64) :
    Double.IsExact n.toInt ↔ ∀ x : Double, x.isNaN = false →
      (int n).compare (.float x) = some (Double.order n.toInt x) := by
  rw [Double.isExact_iff (natAbs_toInt_le n)]
  refine forall_congr' fun x => imp_congr_right fun number => ?_
  rw [compare, compare_double (isNaN_widen n) number, widen, Option.some_inj]

/-! ## The order that is asked for -/

/-- A value that has an order to another one and is not above it. -/
def AtMost (a b : Value) : Prop := ∃ o, a.compare b = some o ∧ o.isLE = true

/-- The place of a number among the doubles. -/
def place? : Value → Option Int
  | .int n => some (widen n).rank
  | .float x => if x.isNaN then none else some x.rank
  | _ => none

/-- Two different integers that a float compares equal to both of. -/
def Collides (a b c : Value) : Prop :=
  ∃ (m : Int64) (x : Double) (n : Int64), a = .int m ∧ b = .float x ∧ c = .int n ∧ m ≠ n ∧
    a.compare b = some .eq ∧ b.compare c = some .eq

variable {a b c : Value} {m n : Int64} {x y : Double} {p q : Int}

theorem atMost_int_iff : AtMost (.int m) (.int n) ↔ m.toInt ≤ n.toInt := by
  simp [AtMost, compare, Int.isLE_compare]

theorem rank_widen_mono (less : m.toInt ≤ n.toInt) : (widen m).rank ≤ (widen n).rank :=
  Double.rank_ofInt_mono less

/-- Numbers that are not both integers compare by their places. -/
theorem compare_of_place? (first : a.place? = some p) (second : b.place? = some q)
    (apart : ∀ m n, ¬ (a = .int m ∧ b = .int n)) : a.compare b = some (Ord.compare p q) := by
  have placed : ∀ x r, place? (.float x) = some r → x.isNaN = false ∧ x.rank = r := by
    intro x r place
    rw [place?] at place
    split at place
    · cases place
    · next number => exact ⟨by simpa using number, Option.some.inj place⟩
  cases a with
  | int m =>
    cases first
    cases b with
    | int n => exact absurd ⟨rfl, rfl⟩ (apart m n)
    | float y =>
      obtain ⟨number, rfl⟩ := placed y q second
      exact compare_double (isNaN_widen m) number
    | null | bool | text => cases second
  | float x =>
    obtain ⟨number, rfl⟩ := placed x p first
    cases b with
    | int n =>
      cases second
      exact compare_double number (isNaN_widen n)
    | float y =>
      obtain ⟨number', rfl⟩ := placed y q second
      exact compare_double number number'
    | null | bool | text => cases second
  | null | bool | text => cases first

theorem place?_of_number (number : x.isNaN = false) : place? (.float x) = some x.rank := by
  rw [place?, number]
  rfl

theorem isNaN_of_atMost (below : AtMost a b) : a.isNaN = false ∧ b.isNaN = false := by
  obtain ⟨o, ordered, -⟩ := below
  cases a <;> cases b <;> simp_all [compare, isNaN, Double.compare]

/-- Numbers keep the order as places. -/
theorem place_le_of_atMost (below : AtMost a b) (first : a.place? = some p) :
    ∃ q, b.place? = some q ∧ p ≤ q := by
  obtain ⟨-, number⟩ := isNaN_of_atMost below
  obtain ⟨o, ordered, le⟩ := below
  obtain ⟨q, second⟩ : ∃ q, b.place? = some q := by
    cases b with
    | int n => exact ⟨_, rfl⟩
    | float y => exact ⟨_, place?_of_number number⟩
    | null | bool | text => cases a <;> first | cases first; done | cases ordered
  refine ⟨q, second, ?_⟩
  by_cases both : ∃ m n, a = .int m ∧ b = .int n
  · obtain ⟨m, n, rfl, rfl⟩ := both
    cases first
    cases second
    exact rank_widen_mono (atMost_int_iff.1 ⟨o, ordered, le⟩)
  · rw [compare_of_place? first second fun m n same => both ⟨m, n, same⟩] at ordered
    cases ordered
    exact Int.isLE_compare.1 le

/-- Two integers that a float separates the wrong way are both taken for it. -/
theorem collides_of_atMost (first : AtMost (.int m) (.float x)) (second : AtMost (.float x) (.int n))
    (above : n.toInt < m.toInt) : Collides (.int m) (.float x) (.int n) := by
  have place : place? (.float x) = some x.rank := place?_of_number (isNaN_of_atMost first).2
  obtain ⟨q, place', below⟩ := place_le_of_atMost first rfl
  cases place.symm.trans place'
  obtain ⟨r, place'', below'⟩ := place_le_of_atMost second place
  cases place''
  have around := rank_widen_mono (Int.le_of_lt above)
  have apart : m ≠ n := by
    rintro rfl
    exact Int.lt_irrefl _ above
  refine ⟨m, x, n, rfl, rfl, rfl, apart, ?_, ?_⟩
  · rw [compare_of_place? rfl place (by rintro _ _ ⟨-, ⟨⟩⟩), Int.compare_eq_eq.2 (by omega)]
  · rw [compare_of_place? place rfl (by rintro _ _ ⟨⟨⟩, -⟩), Int.compare_eq_eq.2 (by omega)]

theorem eq_null_of_atMost (below : AtMost .null b) : b = .null := by
  obtain ⟨o, ordered, -⟩ := below
  cases b with
  | null => rfl
  | bool | int | float | text => cases ordered

theorem bool_of_atMost {s : Bool} (below : AtMost (.bool s) b) :
    ∃ t, b = .bool t ∧ (Ord.compare s t).isLE = true := by
  obtain ⟨o, ordered, le⟩ := below
  cases b with
  | bool t =>
    cases ordered
    exact ⟨t, rfl, le⟩
  | null | int | float | text => cases ordered

theorem text_of_atMost {s : String} (below : AtMost (.text s) b) :
    ∃ t, b = .text t ∧ (Ord.compare s t).isLE = true := by
  obtain ⟨o, ordered, le⟩ := below
  cases b with
  | text t =>
    cases ordered
    exact ⟨t, rfl, le⟩
  | null | bool | int | float => cases ordered

/-- **The order is transitive** unless two integers collide. -/
theorem atMost_trans (first : AtMost a b) (second : AtMost b c) :
    AtMost a c ∨ Collides a b c := by
  cases place : a.place? with
  | some p =>
    obtain ⟨q, place', below⟩ := place_le_of_atMost first place
    obtain ⟨r, place'', below'⟩ := place_le_of_atMost second place'
    by_cases both : ∃ m n, a = .int m ∧ c = .int n
    · obtain ⟨m, n, rfl, rfl⟩ := both
      cases b with
      | int k =>
        rw [atMost_int_iff] at first second ⊢
        exact .inl (first.trans second)
      | float x =>
        rcases Int.lt_or_le n.toInt m.toInt with above | fine
        · exact .inr (collides_of_atMost first second above)
        · exact .inl (atMost_int_iff.2 fine)
      | null | bool | text => cases place'
    · rw [AtMost, compare_of_place? place place'' fun m n same => both ⟨m, n, same⟩]
      exact .inl ⟨_, rfl, Int.isLE_compare.2 (below.trans below')⟩
  | none =>
    left
    cases a with
    | null =>
      obtain rfl := eq_null_of_atMost first
      exact second
    | bool s =>
      obtain ⟨t, rfl, le⟩ := bool_of_atMost first
      obtain ⟨u, rfl, le'⟩ := bool_of_atMost second
      exact ⟨_, rfl, Std.TransOrd.isLE_trans le le'⟩
    | text s =>
      obtain ⟨t, rfl, le⟩ := text_of_atMost first
      obtain ⟨u, rfl, le'⟩ := text_of_atMost second
      exact ⟨_, rfl, Std.TransOrd.isLE_trans le le'⟩
    | int m => cases place
    | float x =>
      rw [place?_of_number (isNaN_of_atMost first).1] at place
      cases place

theorem Collides.symm (collides : Collides a b c) : Collides c b a := by
  obtain ⟨m, x, n, rfl, rfl, rfl, apart, first, second⟩ := collides
  refine ⟨n, x, m, rfl, rfl, rfl, apart.symm, ?_, ?_⟩
  · rw [compare_swap, second]
    rfl
  · rw [compare_swap, first]
    rfl

/-- Of two integers that collide, one is not the value of a double. -/
theorem not_isExact_of_collides (collides : Collides (.int m) (.float x) (.int n)) :
    ¬ (Double.IsExact m.toInt ∧ Double.IsExact n.toInt) := by
  rintro ⟨first, second⟩
  obtain ⟨_, _, _, ⟨⟩, ⟨⟩, ⟨⟩, apart, same, same'⟩ := collides
  have number : x.isNaN = false := (isNaN_of_atMost ⟨_, same, rfl⟩).2
  rw [compare_swap, Option.map_eq_some_iff] at same'
  obtain ⟨o, same', swapped⟩ := same'
  obtain rfl : o = .eq := by cases o <;> first | rfl | cases swapped
  rw [(isExact_iff m).1 first x number, Option.some_inj, Double.order_eq_iff] at same
  rw [(isExact_iff n).1 second x number, Option.some_inj, Double.order_eq_iff] at same'
  have units := same.2.trans same'.2.symm
  have scaled : (Double.unitsPerOne : Int) ≠ 0 :=
    Int.natCast_ne_zero.2 (Nat.ne_of_gt Double.unitsPerOne_pos)
  exact apart (Int64.toInt_inj.1 (Int.eq_of_mul_eq_mul_right scaled units))

/-- Values that are at most each other are equal. -/
theorem compare_eq_of_atMost (first : AtMost a b) (second : AtMost b a) :
    a.compare b = some .eq := by
  obtain ⟨o, ordered, le⟩ := first
  obtain ⟨o', ordered', le'⟩ := second
  rw [compare_swap, ordered, Option.map_some, Option.some_inj] at ordered'
  subst ordered'
  rw [ordered]
  cases o with
  | lt => cases le'
  | eq => rfl
  | gt => cases le

theorem compare_eq_trans (first : a.compare b = some .eq) (second : b.compare c = some .eq) :
    a.compare c = some .eq ∨ Collides a b c := by
  have first' : b.compare a = some .eq := by rw [compare_swap, first]; rfl
  have second' : c.compare b = some .eq := by rw [compare_swap, second]; rfl
  rcases atMost_trans ⟨_, first, rfl⟩ ⟨_, second, rfl⟩ with below | collides
  · rcases atMost_trans ⟨_, second', rfl⟩ ⟨_, first', rfl⟩ with above | collides
    · exact .inl (compare_eq_of_atMost below above)
    · exact .inr collides.symm
  · exact .inr collides

end Value

namespace Comparison

variable {a b c : Value}

theorem apply_le_iff :
    le.apply a b = true ↔ a.isNull = false ∧ b.isNull = false ∧ Value.AtMost a b := by
  have admitted : ∀ o, le.admits o = Ordering.isLE o := by decide
  rw [apply, Value.AtMost]
  cases a.isNull <;> cases b.isNull <;> cases a.compare b <;> simp [isOrdering, admitted]

theorem apply_eq_iff : eq.apply a b = true ↔ a.compare b = some .eq := by
  rw [apply]
  cases a.compare b <;> simp [isOrdering, admits]

/-! ## Numbers of either kind -/

/-- **Numbers compare as far as doubles tell them apart.**  Against a float that is a
number, an integer compares as its exact value does, or as equal, and the float against
it in reverse.  The integers that always compare as they are, are those that doubles stand
for, which all up to `2 ^ 53` are.  Equality and `<=` are transitive on values of all
kinds unless two different integers are equal to the float between them, and then one
of the two is no double. -/
theorem numeric_up_to_rounding (n : Int64) {x : Double} (number : x.isNaN = false)
    (a b c : Value) :
    ((Value.int n).compare (.float x) = some (Double.order n.toInt x) ∨
      (Value.int n).compare (.float x) = some .eq) ∧
    (Value.float x).compare (.int n) = ((Value.int n).compare (.float x)).map Ordering.swap ∧
    (Double.IsExact n.toInt ↔ ∀ y : Double, y.isNaN = false →
      (Value.int n).compare (.float y) = some (Double.order n.toInt y)) ∧
    (n.toInt.natAbs ≤ 2 ^ 53 → Double.IsExact n.toInt) ∧
    (eq.apply a b = true → eq.apply b c = true → eq.apply a c = true ∨ Value.Collides a b c) ∧
    (le.apply a b = true → le.apply b c = true → le.apply a c = true ∨ Value.Collides a b c) ∧
    (∀ m : Int64, Value.Collides (.int m) (.float x) (.int n) →
      ¬ (Double.IsExact m.toInt ∧ Double.IsExact n.toInt)) := by
  refine ⟨Value.compare_int_float n number, Value.compare_swap _ _, Value.isExact_iff n,
    Double.isExact_of_le, ?_, ?_, fun m => Value.not_isExact_of_collides⟩
  · intro first second
    rw [apply_eq_iff] at first second ⊢
    exact Value.compare_eq_trans first second
  · intro first second
    obtain ⟨present, -, below⟩ := apply_le_iff.1 first
    obtain ⟨-, present', below'⟩ := apply_le_iff.1 second
    rw [apply_le_iff]
    rcases Value.atMost_trans below below' with ordered | collides
    · exact .inl ⟨present, present', ordered⟩
    · exact .inr collides

/-- The double `2 ^ 53`. -/
def largeDouble : Double := ⟨0x4340000000000000⟩

theorem numeric_up_to_rounding_neighbours :
    eq.apply (.int 9007199254740993) (.float largeDouble) = true ∧
      eq.apply (.float largeDouble) (.int 9007199254740992) = true ∧
      Value.Collides (.int 9007199254740993) (.float largeDouble) (.int 9007199254740992) ∧
      ¬ Double.IsExact (9007199254740993 : Int64).toInt := by
  obtain ⟨-, -, -, exact, transitive, -, apart⟩ :=
    numeric_up_to_rounding 9007199254740992 (x := largeDouble) (by decide)
      (.int 9007199254740993) (.float largeDouble) (.int 9007199254740992)
  have first : eq.apply (.int 9007199254740993) (.float largeDouble) = true := by
    decide +kernel
  have second : eq.apply (.float largeDouble) (.int 9007199254740992) = true := by
    decide +kernel
  have collides := (transitive first second).resolve_left (by decide)
  have small : Double.IsExact (9007199254740992 : Int64).toInt := exact (by decide)
  exact ⟨first, second, collides, fun whole => apart _ collides ⟨whole, small⟩⟩

/-- **A float does not tell neighbours apart.**  It equals two integers that are not
equal to each other. -/
theorem neighbours_equal_float :
    (Value.int 9007199254740993).compare (.float largeDouble) = some .eq ∧
      Double.order 9007199254740993 largeDouble = .gt ∧
      eq.apply (.int 9007199254740993) (.float largeDouble) = true ∧
      eq.apply (.float largeDouble) (.int 9007199254740992) = true ∧
      eq.apply (.int 9007199254740993) (.int 9007199254740992) = false ∧
      le.apply (.int 9007199254740993) (.float largeDouble) = true ∧
      le.apply (.float largeDouble) (.int 9007199254740992) = true ∧
      le.apply (.int 9007199254740993) (.int 9007199254740992) = false := by
  decide +kernel

end Comparison
end RowScope
