import RowScope.Proofs.Comparison
import Mathlib.Tactic.Ring

/-!
# Rounding integers to doubles

All is counted in units of `2 ^ -1074`, of which every finite double is a whole number.

* `le_nearestToUnits` and `nearestToUnits_le`: rounding does not pass a double.  The
  scale that is chosen is that of the double or lies apart from it, and in either case
  the significands decide.  So a double is its own rounding (`nearestToUnits_units`).
* `Double.order` is the order of an integer and a double by what they stand for, and
  `Double.IsExact` says that some double stands for an integer.
* `compare_rank_ofInt`: the double nearest to an integer stands to every other one as the
  integer does, or is equal to it; `isExact_iff`: the first holds throughout exactly for
  the integers that doubles stand for.
-/

namespace RowScope.Number

/-! ## Quotients -/

section Quotients

variable {n m d c : Nat}

/-- A quotient is not rounded below a natural number that it reaches. -/
theorem le_roundHalfEven (positive : 0 < d) (reached : c * d ≤ n) : c ≤ roundHalfEven n d := by
  have floor : c ≤ n / d := (Nat.le_div_iff_mul_le positive).2 reached
  rw [roundHalfEven]
  split
  · exact floor
  · split <;> omega

/-- Nor above one that it does not exceed. -/
theorem roundHalfEven_le (positive : 0 < d) (bounded : n ≤ c * d) : roundHalfEven n d ≤ c := by
  have parts := Nat.div_add_mod' n d
  have floor : n / d ≤ c := Nat.div_le_of_le_mul (by rwa [Nat.mul_comm])
  by_cases whole : n / d = c
  · rw [whole] at parts
    have exact : n % d = 0 := by omega
    rw [roundHalfEven, exact, whole, if_pos (by simpa using positive)]
  · rw [roundHalfEven]
    split
    · exact floor
    · split <;> omega

theorem roundHalfEven_mono (positive : 0 < d) (less : n ≤ m) :
    roundHalfEven n d ≤ roundHalfEven m d := by
  by_cases same : n / d = m / d
  · have parts := Nat.div_add_mod' n d
    have parts' := Nat.div_add_mod' m d
    rw [same] at parts
    have rests : n % d ≤ m % d := by omega
    rw [roundHalfEven, roundHalfEven, same]
    split
    · split
      · exact Nat.le_refl _
      · split <;> omega
    · split <;> split <;> (try split) <;> omega
  · -- the quotients are apart, and the lower end of the larger one is between them
    have apart : n / d < m / d := Nat.lt_of_le_of_ne (Nat.div_le_div_right less) same
    have between : n ≤ m / d * d := Nat.le_of_lt ((Nat.div_lt_iff_lt_mul positive).1 apart)
    exact (roundHalfEven_le positive between).trans
      (le_roundHalfEven positive (Nat.div_mul_le_self m d))

end Quotients

namespace Double

theorem fractions_eq : fractions = 2 ^ 52 := rfl

theorem pow_eq (k : Nat) : Nat.pow 2 k = 2 ^ k := rfl

/-! ## Magnitudes as significands and scales -/

section Magnitudes

variable {g c t s : Nat}

/-- A magnitude is its scale and its significand, one after the other; only the lowest
scale has significands of less than fifty-three bits. -/
theorem magnitude_parts (g : Nat) :
    g = scale g * fractions + significand g ∧ significand g < 2 * fractions ∧
      (scale g = 0 ∨ fractions ≤ significand g) := by
  have size : fractions = 4503599627370496 := rfl
  rw [significand, scale, size]
  omega

/-- The units of a magnitude that is put together from its parts.  A significand of
fifty-four bits is one of the next scale. -/
theorem units_of_parts (bounded : c ≤ 2 * fractions) (normal : t = 0 ∨ fractions ≤ c) :
    units (t * fractions + c) = c * 2 ^ t := by
  have size : fractions = 4503599627370496 := rfl
  rcases Nat.lt_or_ge c (2 * fractions) with inside | carried
  · have here : scale (t * fractions + c) = t := by
      rw [size] at inside normal
      rw [scale, size]
      omega
    rw [units, significand, here, Nat.add_sub_cancel_left, pow_eq]
  · obtain rfl : c = 2 * fractions := Nat.le_antisymm bounded carried
    have next : scale (t * fractions + 2 * fractions) = t + 1 := by
      rw [scale, size]
      omega
    have half : t * fractions + 2 * fractions - (t + 1) * fractions = fractions := by
      rw [size]
      omega
    rw [units, significand, next, half, pow_eq]
    ring

theorem units_eq (g : Nat) : units g = significand g * 2 ^ scale g := rfl

/-- Every significand of fifty-three bits with any scale is a magnitude. -/
theorem exists_units (t : Nat) (bounded : c ≤ 2 * fractions) : ∃ g, units g = c * Nat.pow 2 t := by
  induction t generalizing c with
  | zero => exact ⟨0 * fractions + c, units_of_parts bounded (.inl rfl)⟩
  | succ t ih =>
    rcases Nat.lt_or_ge c fractions with short | full
    · obtain ⟨g, made⟩ := ih (c := 2 * c) (by omega)
      exact ⟨g, by rw [made, pow_eq, pow_eq]; ring⟩
    · exact ⟨(t + 1) * fractions + c, units_of_parts bounded (.inr full)⟩

/-- So every integer of fifty-three bits is. -/
theorem exists_units_of_le (bounded : c ≤ 2 * fractions) : ∃ g, units g = c * unitsPerOne := by
  unfold unitsPerOne
  apply exists_units
  exact bounded

end Magnitudes

/-! ## Rounding units to a magnitude -/

/-- The magnitude nearest to a number of units, however large. -/
def nearestToUnits (s : Nat) : Nat :=
  (s.log2 - 52) * fractions + roundHalfEven s (2 ^ (s.log2 - 52))

theorem nearestMagnitude_one (n : Nat) :
    nearestMagnitude n 1 = min (nearestToUnits (n * unitsPerOne)) infinity := by
  rw [nearestMagnitude, nearestToUnits]
  simp only [Nat.div_one, Nat.one_mul, pow_eq]

section Nearest

variable {g s s' : Nat}

/-- The scale of a number of units is chosen such that the significand gets fifty-three
bits, if there are as many. -/
theorem units_bounds (s : Nat) :
    s < 2 * fractions * 2 ^ (s.log2 - 52) ∧
      (s.log2 - 52 = 0 ∨ fractions * 2 ^ (s.log2 - 52) ≤ s) := by
  rw [fractions_eq, ← Nat.pow_succ', ← Nat.pow_add, ← Nat.pow_add]
  constructor
  · exact Nat.lt_of_lt_of_le Nat.lt_log2_self (Nat.pow_le_pow_right (by decide) (by omega))
  · rcases Nat.lt_or_ge 52 s.log2 with large | small
    · refine .inr ?_
      have positive : s ≠ 0 := by
        rintro rfl
        simp at large
      rw [Nat.add_sub_cancel' (Nat.le_of_lt large)]
      exact Nat.log2_self_le positive
    · exact .inl (by omega)

theorem roundHalfEven_units_le (s : Nat) :
    roundHalfEven s (2 ^ (s.log2 - 52)) ≤ 2 * fractions :=
  roundHalfEven_le (Nat.two_pow_pos _) (Nat.le_of_lt (units_bounds s).1)

theorem fractions_le_roundHalfEven_units (scaled : s.log2 - 52 ≠ 0) :
    fractions ≤ roundHalfEven s (2 ^ (s.log2 - 52)) :=
  le_roundHalfEven (Nat.two_pow_pos _) ((units_bounds s).2.resolve_left scaled)

/-- A scale that lies below another one leaves a magnitude below. -/
theorem parts_le {t k c r : Nat} (below : t < k) (bounded : c ≤ 2 * fractions)
    (full : fractions ≤ r) : t * fractions + c ≤ k * fractions + r := by
  have size : fractions = 4503599627370496 := rfl
  rw [size] at bounded full ⊢
  omega

/-- **Rounding does not pass a double** from above. -/
theorem le_nearestToUnits (reached : units g ≤ s) : g ≤ nearestToUnits s := by
  obtain ⟨parts, bounded, normal⟩ := magnitude_parts g
  obtain ⟨below, -⟩ := units_bounds s
  rw [units_eq] at reached
  rw [nearestToUnits]
  generalize scaled : s.log2 - 52 = k at *
  generalize significand g = c at *
  generalize scale g = t at *
  -- the scale of the double is not above the one that is chosen
  have scales : t ≤ k := by
    rcases normal with lowest | full
    · omega
    · have crossed : fractions * 2 ^ t < 2 * fractions * 2 ^ k :=
        (Nat.mul_le_mul_right _ full).trans_lt (reached.trans_lt below)
      rw [Nat.mul_comm 2, Nat.mul_assoc, ← Nat.pow_succ'] at crossed
      have powers := Nat.lt_of_mul_lt_mul_left crossed
      exact Nat.le_of_lt_succ ((Nat.pow_lt_pow_iff_right (by decide)).1 powers)
  rw [parts]
  rcases Nat.lt_or_eq_of_le scales with lower | rfl
  · refine parts_le lower (Nat.le_of_lt bounded) ?_
    rw [← scaled]
    exact fractions_le_roundHalfEven_units (by omega)
  · exact Nat.add_le_add_left (le_roundHalfEven (Nat.two_pow_pos _) reached) _

/-- Nor from below. -/
theorem nearestToUnits_le (bounded : s ≤ units g) : nearestToUnits s ≤ g := by
  obtain ⟨parts, small, normal⟩ := magnitude_parts g
  obtain ⟨-, above⟩ := units_bounds s
  rw [units_eq] at bounded
  rw [nearestToUnits]
  have rounded := roundHalfEven_units_le s
  generalize scaled : s.log2 - 52 = k at *
  generalize significand g = c at *
  generalize scale g = t at *
  have scales : k ≤ t := by
    rcases above with lowest | full
    · omega
    · have crossed : fractions * 2 ^ k < 2 * fractions * 2 ^ t :=
        (full.trans bounded).trans_lt (Nat.mul_lt_mul_of_pos_right small (Nat.two_pow_pos _))
      rw [Nat.mul_comm 2, Nat.mul_assoc, ← Nat.pow_succ'] at crossed
      have powers := Nat.lt_of_mul_lt_mul_left crossed
      exact Nat.le_of_lt_succ ((Nat.pow_lt_pow_iff_right (by decide)).1 powers)
  rw [parts]
  rcases Nat.lt_or_eq_of_le scales with lower | rfl
  · exact parts_le lower rounded (normal.resolve_left (by omega))
  · exact Nat.add_le_add_left (roundHalfEven_le (Nat.two_pow_pos _) bounded) _

theorem nearestToUnits_mono (less : s ≤ s') : nearestToUnits s ≤ nearestToUnits s' := by
  have scales : s.log2 - 52 ≤ s'.log2 - 52 := by
    rcases Nat.eq_zero_or_pos s with rfl | positive
    · simp
    · have logs : s.log2 ≤ s'.log2 :=
        (Nat.le_log2 (by omega)).2 ((Nat.log2_self_le (by omega)).trans less)
      omega
  rw [nearestToUnits, nearestToUnits]
  rcases Nat.lt_or_eq_of_le scales with lower | same
  · exact parts_le lower (roundHalfEven_units_le s)
      (fractions_le_roundHalfEven_units (by omega))
  · rw [same]
    exact Nat.add_le_add_left (roundHalfEven_mono (Nat.two_pow_pos _) less) _

/-- A double is its own rounding. -/
theorem nearestToUnits_units (g : Nat) : nearestToUnits (units g) = g :=
  Nat.le_antisymm (nearestToUnits_le (Nat.le_refl _)) (le_nearestToUnits (Nat.le_refl _))

end Nearest

/-! ## Rounding integers -/

/-- The integer that a finite double stands for, in units of `2 ^ -1074`. -/
def signedUnits (x : Double) : Int := if x.negative then -(units x.magnitude) else units x.magnitude

/-- The order of an integer and a double that is not a NaN, by what they stand for; the
infinities lie beyond all integers. -/
def order (n : Int) (x : Double) : Ordering :=
  if x.isInfinite then if x.negative then .gt else .lt
  else Ord.compare (n * unitsPerOne) x.signedUnits

/-- An integer that is the value of a double. -/
def IsExact (n : Int) : Prop :=
  ∃ x : Double, x.magnitude < infinity ∧ x.signedUnits = n * unitsPerOne

section Integers

variable {n m : Int} {x : Double}

theorem negative_ofMagnitude (negative : Bool) {magnitude : Nat} (small : magnitude < signBit) :
    (ofMagnitude negative magnitude).negative = negative := by
  have bit : signBit = 9223372036854775808 := rfl
  rw [bit] at small
  rw [Double.negative, ofMagnitude, UInt64.toNat_ofNat', bit]
  cases negative with
  | false =>
    rw [if_neg Bool.false_ne_true, decide_eq_false_iff_not]
    omega
  | true =>
    rw [if_pos rfl, decide_eq_true_iff]
    omega

theorem nearestMagnitude_le_infinity (n d : Nat) : nearestMagnitude n d ≤ infinity :=
  Nat.min_le_right _ _

theorem rank_ofInt (n : Int) :
    (ofInt n).rank =
      if n < 0 then -(nearestMagnitude n.natAbs 1 : Int) else nearestMagnitude n.natAbs 1 := by
  have small : nearestMagnitude n.natAbs 1 < signBit :=
    Nat.lt_of_le_of_lt (nearestMagnitude_le_infinity _ _) (by decide)
  rw [rank, ofInt, ofQuotient, negative_ofMagnitude _ small, magnitude_ofMagnitude _ small]
  simp only [decide_eq_true_eq]

theorem le_nearestMagnitude {g n : Nat} (bounded : g ≤ infinity)
    (reached : units g ≤ n * unitsPerOne) : g ≤ nearestMagnitude n 1 := by
  rw [nearestMagnitude_one]
  exact Nat.le_min.2 ⟨le_nearestToUnits reached, bounded⟩

theorem nearestMagnitude_le {g n : Nat} (bounded : n * unitsPerOne ≤ units g) :
    nearestMagnitude n 1 ≤ g := by
  rw [nearestMagnitude_one]
  exact (Nat.min_le_left _ _).trans (nearestToUnits_le bounded)

theorem nearestMagnitude_mono {n m : Nat} (less : n ≤ m) :
    nearestMagnitude n 1 ≤ nearestMagnitude m 1 := by
  rw [nearestMagnitude_one, nearestMagnitude_one]
  have rounded := nearestToUnits_mono (Nat.mul_le_mul_right unitsPerOne less)
  omega

theorem rank_ofInt_mono (less : n ≤ m) : (ofInt n).rank ≤ (ofInt m).rank := by
  rw [rank_ofInt, rank_ofInt]
  split
  · next below =>
    split
    · have rounded := nearestMagnitude_mono (n := m.natAbs) (m := n.natAbs) (by omega)
      omega
    · omega
  · next above =>
    have rounded := nearestMagnitude_mono (n := n.natAbs) (m := m.natAbs) (by omega)
    split <;> omega

theorem units_eq_zero_iff {g : Nat} : units g = 0 ↔ g = 0 := by
  constructor
  · intro nothing
    have least : g ≤ nearestToUnits 0 := le_nearestToUnits (Nat.le_of_eq nothing)
    rw [← Nat.le_zero]
    exact least.trans_eq (by decide)
  · rintro rfl
    decide

theorem unitsPerOne_pos : 0 < unitsPerOne := by decide +kernel

theorem mul_unitsPerOne (n : Int) :
    n * unitsPerOne =
      if n < 0 then -((n.natAbs * unitsPerOne : Nat) : Int) else (n.natAbs * unitsPerOne : Nat) := by
  rw [Int.natCast_mul]
  split
  · next below => rw [Int.ofNat_natAbs_of_nonpos (Int.le_of_lt below), Int.neg_mul, Int.neg_neg]
  · next above => rw [Int.natAbs_of_nonneg (Int.not_lt.1 above)]

theorem magnitude_le_infinity (number : x.isNaN = false) : x.magnitude ≤ infinity := by
  rw [isNaN, decide_eq_false_iff_not] at number
  exact Nat.not_lt.1 number

/-- An integer does not round below a double that it reaches. -/
theorem rank_le_rank_ofInt (number : x.isNaN = false)
    (reached : x.signedUnits ≤ n * unitsPerOne) : x.rank ≤ (ofInt n).rank := by
  have bounded := magnitude_le_infinity number
  rw [signedUnits, mul_unitsPerOne] at reached
  rw [rank, rank_ofInt]
  split at reached
  · next negative =>
    rw [if_pos negative]
    split at reached
    · next below =>
      have rounded : nearestMagnitude n.natAbs 1 ≤ x.magnitude := nearestMagnitude_le (by omega)
      rw [if_pos below]
      omega
    · next above =>
      rw [if_neg above]
      omega
  · next positive =>
    rw [if_neg positive]
    split at reached
    · next below =>
      have apart : 0 < n.natAbs * unitsPerOne := Nat.mul_pos (by omega) unitsPerOne_pos
      omega
    · next above =>
      have rounded : x.magnitude ≤ nearestMagnitude n.natAbs 1 :=
        le_nearestMagnitude bounded (by omega)
      rw [if_neg above]
      omega

/-- Nor above one that it does not exceed. -/
theorem rank_ofInt_le_rank (number : x.isNaN = false)
    (bounded : n * unitsPerOne ≤ x.signedUnits) : (ofInt n).rank ≤ x.rank := by
  have finite := magnitude_le_infinity number
  rw [signedUnits, mul_unitsPerOne] at bounded
  rw [rank_ofInt, rank]
  split at bounded
  · next below =>
    rw [if_pos below]
    split at bounded
    · next negative =>
      have rounded : x.magnitude ≤ nearestMagnitude n.natAbs 1 :=
        le_nearestMagnitude finite (by omega)
      rw [if_pos negative]
      omega
    · next positive =>
      rw [if_neg positive]
      omega
  · next above =>
    rw [if_neg above]
    split at bounded
    · next negative =>
      -- both are zero
      have nothing : x.magnitude = 0 := units_eq_zero_iff.1 (by omega)
      have rounded : nearestMagnitude n.natAbs 1 ≤ x.magnitude := nearestMagnitude_le (by omega)
      rw [if_pos negative]
      omega
    · next positive =>
      have rounded : nearestMagnitude n.natAbs 1 ≤ x.magnitude := nearestMagnitude_le (by omega)
      rw [if_neg positive]
      omega

/-- Doubles of one rank stand for one number. -/
theorem signedUnits_eq_of_rank_eq {x y : Double} (same : x.rank = y.rank) :
    x.signedUnits = y.signedUnits := by
  have zero : units 0 = 0 := units_eq_zero_iff.2 rfl
  rw [rank, rank] at same
  rw [signedUnits, signedUnits]
  by_cases alike : x.negative = y.negative
  · have magnitudes : x.magnitude = y.magnitude := by
      rw [alike] at same
      split at same <;> omega
    rw [alike, magnitudes]
  · -- one is a zero with a sign and the other one without
    have nothing : x.magnitude = 0 ∧ y.magnitude = 0 := by
      split at same
      · next first =>
        split at same
        · next second => exact absurd (first.trans second.symm) alike
        · omega
      · next first =>
        split at same
        · omega
        · next second =>
          rw [Bool.not_eq_true] at first second
          exact absurd (first.trans second.symm) alike
    rw [nothing.1, nothing.2, zero]
    split <;> split <;> rfl

/-- The magnitude of one past the largest integer of sixty-four bits with a sign. -/
theorem units_signedBound : units (1086 * fractions) = signedBound * unitsPerOne := by
  decide +kernel

/-- Integers of sixty-four bits are far from the infinities. -/
theorem lt_infinity_of_units_le {g : Nat} (bounded : units g ≤ signedBound * unitsPerOne) :
    g < infinity := by
  have rounded : g ≤ 1086 * fractions := by
    rw [← nearestToUnits_units g]
    exact nearestToUnits_le (bounded.trans_eq units_signedBound.symm)
  exact rounded.trans_lt (by decide)

theorem nearestMagnitude_lt_infinity {n : Nat} (bounded : n ≤ signedBound) :
    nearestMagnitude n 1 < infinity := by
  have reached : n * unitsPerOne ≤ units (1086 * fractions) :=
    (Nat.mul_le_mul_right _ bounded).trans_eq units_signedBound.symm
  exact (nearestMagnitude_le reached).trans_lt (by decide)

/-- **Rounding never turns an order round.**  The double nearest to an integer stands to
every double as the integer itself does, or is equal to it. -/
theorem compare_rank_ofInt (bounded : n.natAbs ≤ signedBound) (number : x.isNaN = false) :
    Ord.compare (ofInt n).rank x.rank = order n x ∨
      Ord.compare (ofInt n).rank x.rank = .eq := by
  rw [order]
  split
  · next infinite =>
    have small := nearestMagnitude_lt_infinity bounded
    rw [isInfinite, decide_eq_true_iff] at infinite
    have near : -(infinity : Int) < (ofInt n).rank ∧ (ofInt n).rank < infinity := by
      rw [rank_ofInt]
      split <;> omega
    left
    split
    · next negative =>
      have last : x.rank = -(infinity : Int) := by rw [rank, if_pos negative, infinite]
      rw [Int.compare_eq_gt, last]
      exact near.1
    · next positive =>
      have last : x.rank = infinity := by rw [rank, if_neg positive, infinite]
      rw [Int.compare_eq_lt, last]
      exact near.2
  · rcases lt_trichotomy (n * unitsPerOne) x.signedUnits with less | same | more
    · have rounded := rank_ofInt_le_rank number (Int.le_of_lt less)
      rw [Int.compare_eq_lt.2 less, Int.compare_eq_lt, Int.compare_eq_eq]
      omega
    · have above := rank_ofInt_le_rank number (Int.le_of_eq same)
      have below := rank_le_rank_ofInt number (Int.le_of_eq same.symm)
      exact .inr (Int.compare_eq_eq.2 (Int.le_antisymm above below))
    · have rounded := rank_le_rank_ofInt number (Int.le_of_lt more)
      rw [Int.compare_eq_gt.2 more, Int.compare_eq_gt, Int.compare_eq_eq]
      omega

theorem isNaN_eq_false_of_lt (finite : x.magnitude < infinity) : x.isNaN = false := by
  rw [isNaN, decide_eq_false_iff_not]
  omega

/-- By what they stand for, an integer is equal to a double that stands for it. -/
theorem order_eq_iff :
    order n x = .eq ↔ x.isInfinite = false ∧ n * unitsPerOne = x.signedUnits := by
  rw [order]
  split
  · next infinite =>
    refine iff_of_false ?_ fun equal => Bool.noConfusion (infinite.symm.trans equal.1)
    split <;> exact Ordering.noConfusion
  · next finite =>
    rw [Bool.not_eq_true] at finite
    rw [Int.compare_eq_eq]
    exact ⟨fun same => ⟨finite, same⟩, And.right⟩

theorem magnitude_ofInt_lt_infinity (bounded : n.natAbs ≤ signedBound) :
    (ofInt n).magnitude < infinity := by
  have small := nearestMagnitude_lt_infinity bounded
  rw [ofInt, ofQuotient, magnitude_ofMagnitude _ (small.trans (by decide))]
  exact small

/-- **The integers that doubles stand for** are those that compare as what they are. -/
theorem isExact_iff (bounded : n.natAbs ≤ signedBound) :
    IsExact n ↔ ∀ x : Double, x.isNaN = false →
      Ord.compare (ofInt n).rank x.rank = order n x := by
  constructor
  · rintro ⟨y, finite, stands⟩ x number
    rcases compare_rank_ofInt bounded number with exact | equal
    · exact exact
    · -- an equal double has the rank of the one that stands for the integer
      have whole := isNaN_eq_false_of_lt finite
      have above := rank_ofInt_le_rank whole (Int.le_of_eq stands.symm)
      have below := rank_le_rank_ofInt whole (Int.le_of_eq stands)
      have same : x.rank = y.rank :=
        (Int.compare_eq_eq.1 equal).symm.trans (Int.le_antisymm above below)
      have inside : x.isInfinite = false := by
        have ranks := same
        rw [rank, rank] at ranks
        rw [isInfinite, decide_eq_false_iff_not]
        split at ranks <;> split at ranks <;> omega
      rw [equal, eq_comm, order_eq_iff, ← stands, signedUnits_eq_of_rank_eq same]
      exact ⟨inside, rfl⟩
  · intro exact
    have finite := magnitude_ofInt_lt_infinity bounded
    have itself := exact (ofInt n) (isNaN_eq_false_of_lt finite)
    rw [Int.compare_eq_eq.2 rfl] at itself
    exact ⟨ofInt n, finite, (order_eq_iff.1 itself.symm).2.symm⟩

/-- Among them are all of up to fifty-three bits. -/
theorem isExact_of_le (bounded : n.natAbs ≤ 2 * fractions) : IsExact n := by
  obtain ⟨g, made⟩ := exists_units_of_le bounded
  have finite : g < infinity := by
    refine lt_infinity_of_units_le ?_
    rw [made]
    exact Nat.mul_le_mul_right _ (bounded.trans (by decide))
  have small : g < signBit := finite.trans (by decide)
  refine ⟨ofMagnitude (decide (n < 0)) g, ?_, ?_⟩
  · rw [magnitude_ofMagnitude _ small]
    exact finite
  · rw [signedUnits, magnitude_ofMagnitude _ small, negative_ofMagnitude _ small, made,
      mul_unitsPerOne]
    simp only [decide_eq_true_eq]

end Integers
end Double
end RowScope.Number
