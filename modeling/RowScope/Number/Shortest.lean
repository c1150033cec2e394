import RowScope.Number.Numeral

/-!
# The shortest decimal of a double

The reals that round to a finite double form an interval around it, whose ends
belong to it when the significand is even.  `shortest` is the decimal with the
fewest digits inside that interval and, of those, the one nearest to the double.

On the grid of the decimals with `n` digits only the two neighbours of the
double have to be tried: if any point of the grid lies in the interval, one of
them does.  All comparisons are between natural numbers, over the common
denominator `denominator`.
-/

namespace RowScope.Number

/-- Which of two equally near decimals is taken. -/
inductive TieRule
  /-- The one farther from zero. -/
  | away
  /-- The one whose last digit is even. -/
  | even
deriving DecidableEq, Repr

/-- The decimal `digits * 10 ^ exponent`. -/
structure Decimal where
  digits : Nat
  exponent : Int
deriving DecidableEq, Repr

/-- The same decimal without zeros at the end of its digits. -/
def Decimal.trim (d : Decimal) : Decimal :=
  if h : d.digits % 10 = 0 ∧ d.digits ≠ 0 then
    Decimal.trim ⟨d.digits / 10, d.exponent + 1⟩
  else d
termination_by d.digits
decreasing_by exact Nat.div_lt_self (Nat.pos_of_ne_zero h.2) (by decide)

namespace Shortest

/-- The denominator over which a double and the ends of its interval are whole:
four times the number of units in one. -/
def denominator : Nat := 4 * Double.unitsPerOne

/-- A magnitude over `denominator`. -/
def centre (m : Nat) : Nat := 4 * Double.units m

/-- The lower end of the interval.  The gap below a power of two is half as wide
as the one above it, unless the scale is the smallest already. -/
def lower (m : Nat) : Nat :=
  let narrow := Double.significand m = Double.fractions ∧ Double.scale m ≠ 0
  centre m - (if narrow then 1 else 2) * Nat.pow 2 (Double.scale m)

/-- The upper end of the interval. -/
def upper (m : Nat) : Nat := centre m + 2 * Nat.pow 2 (Double.scale m)

/-- Whether the ends of the interval round to the magnitude too. -/
def closed (m : Nat) : Bool := Double.significand m % 2 == 0

/-- The power of ten of the first digit of `n / denominator`, for `0 < n`. -/
def leadingPower (n : Nat) : Int :=
  if denominator ≤ n then (digitCount (n / denominator) : Int) - 1
  else -(digitCount ((denominator - 1) / n) : Int)

/-- The pair `(a, b)` with `a / b = c * 10 ^ e` over `denominator`, so that
`x / denominator` compares with it as `x * b` does with `a`. -/
def gridPoint (c : Nat) (e : Int) : Nat × Nat :=
  if 0 ≤ e then (c * Nat.pow 10 e.toNat * denominator, 1)
  else (c * denominator, Nat.pow 10 e.natAbs)

/-- Whether `c * 10 ^ e` rounds to the magnitude. -/
def inside (m c : Nat) (e : Int) : Bool :=
  let (a, b) := gridPoint c e
  if closed m then decide (lower m * b ≤ a ∧ a ≤ upper m * b)
  else decide (lower m * b < a ∧ a < upper m * b)

/-- The largest `c` with `c * 10 ^ e` at most the magnitude. -/
def gridFloor (m : Nat) (e : Int) : Nat :=
  if 0 ≤ e then centre m / (Nat.pow 10 e.toNat * denominator)
  else centre m * Nat.pow 10 e.natAbs / denominator

/-- Of the two neighbours `c` and `c + 1`, the one nearer to the magnitude. -/
def nearer (tie : TieRule) (m c : Nat) (e : Int) : Nat :=
  let (a, b) := gridPoint c e
  let (a', _) := gridPoint (c + 1) e
  let below := centre m * b - a
  let above := a' - centre m * b
  if below < above then c
  else if above < below then c + 1
  else match tie with
    | .away => c + 1
    | .even => c + c % 2

/-- The decimal with `n` digits that stands for the magnitude, if there is one. -/
def withDigits? (tie : TieRule) (m n : Nat) : Option Decimal :=
  let e := leadingPower (centre m) - n + 1
  let c := gridFloor m e
  match inside m c e, inside m (c + 1) e with
  | true, true => some ⟨nearer tie m c e, e⟩
  | true, false => some ⟨c, e⟩
  | false, true => some ⟨c + 1, e⟩
  | false, false => none

/-- No double needs more digits than this. -/
def maxDigits : Nat := 17

end Shortest

/-- The shortest decimal of a finite magnitude above zero. -/
def shortest (tie : TieRule) (m : Nat) : Decimal :=
  let found := (List.range Shortest.maxDigits).findSome? fun i =>
    Shortest.withDigits? tie m (i + 1)
  (found.getD ⟨Double.units m, 0⟩).trim

end RowScope.Number
