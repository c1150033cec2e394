import RowScope.Number.Shortest

/-!
# Doubles as text

A `Layout` holds the decisions of one text format about doubles; the digits are
the shortest ones.  A number whose first digit stands within the positional
range is written out, with at least one digit after the point; any other gets an
exponent and then only the digits it needs.
-/

namespace RowScope.Number

/-- How one text format writes finite doubles. -/
structure Layout where
  /-- The lowest power of ten of the first digit that is written out. -/
  lowest : Int
  /-- The highest one. -/
  highest : Int
  /-- Whether an exponent that is not negative carries its sign. -/
  plus : Bool
  tie : TieRule

/-- How values are shown: written out from `0.0001` to below `1e16`, and `1e16`
has no sign in its exponent. -/
def Layout.shown : Layout := ⟨-4, 15, false, .away⟩

/-- How values are interchanged: written out from `0.00001` to below `1e16`, and
an exponent always has a sign. -/
def Layout.interchange : Layout := ⟨-5, 15, true, .even⟩

/-- The numeral of digits written out around the point; the first one has the
power of ten `p`. -/
def positional (negative : Bool) (digits : List Nat) (p : Int) : Numeral :=
  if p < 0 then
    ⟨negative, 0, List.replicate (p.natAbs - 1) 0 ++ digits, none⟩
  else
    let width := p.toNat + 1
    let fraction := digits.drop width
    let whole := digits.take width ++ List.replicate (width - digits.length) 0
    ⟨negative, ofDigits whole, if fraction.isEmpty then [0] else fraction, none⟩

/-- The numeral of digits with the point after the first one, which has the
power of ten `p`. -/
def scientific (negative : Bool) (digits : List Nat) (p : Int) : Numeral :=
  ⟨negative, ofDigits (digits.take 1), digits.drop 1, some p⟩

namespace Double

/-- The numeral of a finite double. -/
def numeral (layout : Layout) (x : Double) : Numeral :=
  if x.isZero then ⟨x.negative, 0, [0], none⟩
  else
    let d := shortest layout.tie x.magnitude
    let digits := digitsOf d.digits
    let p := d.exponent + digits.length - 1
    if layout.lowest ≤ p ∧ p ≤ layout.highest then positional x.negative digits p
    else scientific x.negative digits p

/-- The text that values are shown as.  A NaN is shown without its sign. -/
def text (x : Double) : String :=
  if x.isNaN then "NaN"
  else if x.isInfinite then (if x.negative then "-inf" else "inf")
  else String.ofList ((x.numeral .shown).chars Layout.shown.plus)

end Double

end RowScope.Number
