/-!
# Double-precision numbers as their sixty-four bits

A `Double` is its bit pattern, so two doubles are the same value of this type
exactly when every bit agrees: payloads of NaN and the sign of zero included.
What arithmetic there is, is done on natural numbers.

* `rank` places the doubles that are not NaN on the integers in their numeric
  order, both zeros at `0`; `compare` is the order of the ranks.
* A finite magnitude is `significand * 2 ^ scale` units of `2 ^ -1074`.
* `nearestMagnitude` rounds a quotient of naturals to the nearest magnitude, a
  tie to the even significand.
-/

namespace RowScope.Number

/-- A double-precision number, held as its bits: sign, eleven bits of exponent
and fifty-two bits of fraction. -/
structure Double where
  bits : UInt64
deriving DecidableEq, Repr

/-- The quotient `n / d` rounded to a natural number, a half to the even one. -/
def roundHalfEven (n d : Nat) : Nat :=
  let q := n / d
  let r := n % d
  if 2 * r < d then q
  else if d < 2 * r then q + 1
  else q + q % 2

/-- One past the largest integer of sixty-four bits with a sign. -/
def signedBound : Nat := Nat.pow 2 63

/-- One past the largest number of sixty-four bits. -/
def wordBound : Nat := Nat.pow 2 64

namespace Double

/-- The bit pattern whose only bit is the sign. -/
def signBit : Nat := Nat.pow 2 63

/-- The number of fractions, that is, of magnitudes with one exponent. -/
def fractions : Nat := Nat.pow 2 52

/-- The magnitude of the infinities; the magnitudes above it are NaN. -/
def infinity : Nat := 2047 * fractions

/-- The bits below the sign bit. -/
def magnitude (x : Double) : Nat := x.bits.toNat % signBit

/-- Whether the sign bit is set. -/
def negative (x : Double) : Bool := decide (signBit ≤ x.bits.toNat)

def isNaN (x : Double) : Bool := decide (infinity < x.magnitude)

def isInfinite (x : Double) : Bool := decide (x.magnitude = infinity)

def isZero (x : Double) : Bool := decide (x.magnitude = 0)

/-- The double of a sign and a magnitude. -/
def ofMagnitude (negative : Bool) (magnitude : Nat) : Double :=
  ⟨UInt64.ofNat (if negative then signBit + magnitude else magnitude)⟩

/-! ## Order -/

/-- The place of a double that is not NaN among all of them: magnitudes grow
with the numbers they stand for, and both zeros have rank `0`. -/
def rank (x : Double) : Int :=
  if x.negative then -(x.magnitude : Int) else x.magnitude

/-- The numeric order; a NaN stands in no order to anything. -/
def compare (x y : Double) : Option Ordering :=
  if x.isNaN || y.isNaN then none else some (Ord.compare x.rank y.rank)

/-- Numeric equality: both zeros are equal, and a NaN equals nothing. -/
def same (x y : Double) : Bool := x.compare y == some .eq

/-! ## Exact value of a finite double -/

/-- The power of two that the significand of a magnitude is multiplied by, in
units of `2 ^ -1074`. -/
def scale (magnitude : Nat) : Nat := magnitude / fractions - 1

/-- The significand of a magnitude, below `2 ^ 53`. -/
def significand (magnitude : Nat) : Nat := magnitude - scale magnitude * fractions

/-- How many units of `2 ^ -1074` a finite magnitude is. -/
def units (magnitude : Nat) : Nat := significand magnitude * Nat.pow 2 (scale magnitude)

/-- The number of units of `2 ^ -1074` in one. -/
def unitsPerOne : Nat := Nat.pow 2 1074

/-! ## Rounding -/

/-- The magnitude nearest to `num / den`, a tie to the even significand, and
infinity from half a step above the largest finite double on.  A significand
rounded up to `2 ^ 53` carries into the next scale by itself, because scale and
significand are added. -/
def nearestMagnitude (num den : Nat) : Nat :=
  let scaled := num * unitsPerOne
  let k := (scaled / den).log2 - 52
  min (k * fractions + roundHalfEven scaled (den * Nat.pow 2 k)) infinity

/-- The double nearest to a quotient with the given sign. -/
def ofQuotient (negative : Bool) (num den : Nat) : Double :=
  ofMagnitude negative (nearestMagnitude num den)

/-- The double nearest to an integer. -/
def ofInt (n : Int) : Double := ofQuotient (decide (n < 0)) n.natAbs 1

/-- The product of two finite doubles, rounded once. -/
def mul (x y : Double) : Double :=
  ofQuotient (x.negative != y.negative) (units x.magnitude * units y.magnitude)
    (unitsPerOne * unitsPerOne)

/-- The quotient of a finite double by a finite double other than zero, rounded
once. -/
def div (x y : Double) : Double :=
  ofQuotient (x.negative != y.negative) (units x.magnitude) (units y.magnitude)

/-- A finite double rounded to an integer, a half away from zero. -/
def roundHalfAway (x : Double) : Int :=
  let n := (2 * units x.magnitude + unitsPerOne) / (2 * unitsPerOne)
  if x.negative then -(n : Int) else n

end Double

end RowScope.Number
