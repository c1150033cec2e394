import RowScope.Comparison

/-!
# When two values have an order

`Value.compare_eq_none_iff`: two values whose types stand in an order have none only
because one of them is null and the other is not, or because one is a NaN.  An
integer that is compared with a float brings no NaN of its own
(`Double.isNaN_ofInt`).
-/

namespace RowScope

namespace Number.Double

/-- The bits of a magnitude, whatever the sign, are read back as the magnitude. -/
theorem magnitude_ofMagnitude (negative : Bool) {magnitude : Nat} (small : magnitude < signBit) :
    (ofMagnitude negative magnitude).magnitude = magnitude := by
  have bit : signBit = 9223372036854775808 := rfl
  rw [bit] at small
  rw [Double.magnitude, ofMagnitude, UInt64.toNat_ofNat', bit]
  cases negative with
  | false =>
    rw [if_neg Bool.false_ne_true]
    omega
  | true =>
    rw [if_pos rfl]
    omega

/-- No integer rounds to a NaN. -/
theorem isNaN_ofInt (n : Int) : (ofInt n).isNaN = false := by
  have finite : nearestMagnitude n.natAbs 1 ≤ infinity := Nat.min_le_right _ _
  have small : nearestMagnitude n.natAbs 1 < signBit :=
    Nat.lt_of_le_of_lt finite (by decide)
  rw [ofInt, ofQuotient, isNaN, magnitude_ofMagnitude _ small, decide_eq_false_iff_not]
  exact Nat.not_lt.2 finite

theorem compare_eq_none_iff (x y : Double) :
    x.compare y = none ↔ x.isNaN = true ∨ y.isNaN = true := by
  rw [compare]
  split
  · next unordered => simpa using unordered
  · next ordered => simpa using ordered

end Number.Double

namespace ScalarType

variable {s t u : ScalarType}

theorem comparableWith_iff :
    s.comparableWith t = true ↔ s = t ∨ (s.isNumeric = true ∧ t.isNumeric = true) := by
  simp [comparableWith]

theorem comparableWith_symm (alike : s.comparableWith t = true) :
    t.comparableWith s = true := by
  rw [comparableWith_iff] at *
  rcases alike with rfl | ⟨first, second⟩
  · exact .inl rfl
  · exact .inr ⟨second, first⟩

theorem comparableWith_trans (first : s.comparableWith t = true)
    (second : t.comparableWith u = true) : s.comparableWith u = true := by
  rw [comparableWith_iff] at *
  rcases first with rfl | ⟨numeric, between⟩
  · exact second
  · rcases second with rfl | ⟨-, last⟩
    · exact .inr ⟨numeric, between⟩
    · exact .inr ⟨numeric, last⟩

/-- A value that stands where a type is declared is of that type, or an integer for a
float. -/
theorem accepts_iff {v : Value} :
    t.accepts v = true ↔ v.scalarType = some t ∨ (t = .float ∧ v.scalarType = some .int) := by
  cases t <;> cases v <;> simp [accepts, Value.scalarType]

/-- So its own type compares with the declared one. -/
theorem comparableWith_of_accepts {v : Value} (accepted : t.accepts v = true)
    (own : v.scalarType = some s) : s.comparableWith t = true := by
  rcases accepts_iff.1 accepted with same | ⟨rfl, int⟩
  · rw [same] at own
    cases own
    simp [comparableWith]
  · rw [int] at own
    cases own
    rfl

end ScalarType

namespace Value

def isNaN : Value → Bool
  | .float x => x.isNaN
  | _ => false

/-- Values whose types stand in an order have none only by a null or a NaN. -/
theorem compare_eq_none_iff {a b : Value}
    (alike : ∀ s ∈ a.scalarType, ∀ t ∈ b.scalarType, s.comparableWith t = true) :
    a.compare b = none ↔ a.isNull ≠ b.isNull ∨ a.isNaN = true ∨ b.isNaN = true := by
  have widened : ∀ n, (widen n).isNaN = false := fun n => Number.Double.isNaN_ofInt _
  cases a <;> cases b <;>
    simp_all [compare, isNull, isNaN, scalarType, ScalarType.comparableWith, ScalarType.isNumeric,
      Number.Double.compare_eq_none_iff]

end Value

end RowScope
