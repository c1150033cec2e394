import RowScope.Number.Double

/-!
# Decimal numerals

A `Numeral` is a decimal number as it is written: sign, whole part, digits after
the point, and a power of ten.  Text formats write and read numerals; what
number a numeral stands for is a separate question with two answers here.

* `toDouble` is the nearest double.
* `toDoubleByPowers?` is the cheaper conversion of interchange text: the leading
  digits that fit into sixty-four bits are rounded to a double, which is then
  multiplied or divided by a power of ten that is itself a double.
-/

namespace RowScope.Number

/-- A decimal number as written.  The digits of the fraction are most
significant first, and an empty fraction means that no point is written. -/
structure Numeral where
  negative : Bool
  whole : Nat
  fraction : List Nat
  exponent : Option Int
deriving DecidableEq, Repr

/-- The number that a list of decimal digits stands for. -/
def ofDigits (digits : List Nat) : Nat :=
  digits.foldl (fun n d => 10 * n + d) 0

/-- The decimal digits of a natural number, most significant first. -/
def digitsOf (n : Nat) : List Nat :=
  (Nat.toDigits 10 n).map fun c => c.toNat - 48

/-- The character of a decimal digit. -/
def digitChar (d : Nat) : Char := Char.ofNat (48 + d)

/-- The number of decimal digits of a natural number; zero has one. -/
def digitCount (n : Nat) : Nat := (Nat.toDigits 10 n).length

/-- The value of a character that is a decimal digit. -/
def digit? (c : Char) : Option Nat :=
  if c.isDigit then some (c.toNat - 48) else none

/-- The longest run of decimal digits at the head of a text, and the rest. -/
def takeDigits : List Char → List Nat × List Char
  | [] => ([], [])
  | c :: rest =>
    match digit? c with
    | some d => let (ds, rest) := takeDigits rest; (d :: ds, rest)
    | none => ([], c :: rest)

namespace Numeral

/-- The numeral of an integer. -/
def ofInt (n : Int) : Numeral := ⟨decide (n < 0), n.natAbs, [], none⟩

/-! ## Text -/

/-- The text of an exponent; `plus` says whether one that is not negative
carries its sign. -/
def exponentChars (plus : Bool) (e : Int) : List Char :=
  if e < 0 then '-' :: Nat.toDigits 10 e.natAbs
  else if plus then '+' :: Nat.toDigits 10 e.natAbs
  else Nat.toDigits 10 e.natAbs

/-- The numeral as text. -/
def chars (plus : Bool) (n : Numeral) : List Char :=
  (if n.negative then ['-'] else [])
    ++ Nat.toDigits 10 n.whole
    ++ (if n.fraction.isEmpty then [] else '.' :: n.fraction.map digitChar)
    ++ (match n.exponent with
        | none => []
        | some e => 'e' :: exponentChars plus e)

/-- Reads the whole part: a zero that no digit follows, or a run of digits that
starts with another digit. -/
def readWhole (cs : List Char) : Option (Nat × List Char) :=
  match takeDigits cs with
  | ([], _) => none
  | ([d], rest) => some (d, rest)
  | (0 :: _, _) => none
  | (ds, rest) => some (ofDigits ds, rest)

/-- Reads a point and the digits after it, if there are any. -/
def readFraction : List Char → List Nat × List Char
  | '.' :: rest =>
    match takeDigits rest with
    | ([], _) => ([], '.' :: rest)
    | (ds, rest) => (ds, rest)
  | cs => ([], cs)

/-- Reads the sign of an exponent. -/
def readSign : List Char → Bool × List Char
  | '-' :: rest => (true, rest)
  | '+' :: rest => (false, rest)
  | cs => (false, cs)

/-- Reads an exponent, if there is one. -/
def readExponent : List Char → Option Int × List Char
  | c :: rest =>
    if c = 'e' ∨ c = 'E' then
      let (minus, digits) := readSign rest
      match takeDigits digits with
      | ([], _) => (none, c :: rest)
      | (ds, rest) =>
        (some (if minus then -(ofDigits ds : Int) else ofDigits ds), rest)
    else (none, c :: rest)
  | [] => (none, [])

/-- Reads the part of a numeral after its sign. -/
def readUnsigned (negative : Bool) (cs : List Char) : Option (Numeral × List Char) := do
  let (whole, cs) ← readWhole cs
  let (fraction, cs) := readFraction cs
  let (exponent, cs) := readExponent cs
  pure (⟨negative, whole, fraction, exponent⟩, cs)

/-- Reads the numeral at the head of a text. -/
def read : List Char → Option (Numeral × List Char)
  | '-' :: rest => readUnsigned true rest
  | cs => readUnsigned false cs

/-! ## The number it stands for -/

/-- Whether the numeral is written without a point and without an exponent. -/
def isWhole (n : Numeral) : Bool := n.fraction.isEmpty && n.exponent.isNone

/-- The integer it writes.  A negative zero writes none, because integers have
no sign of zero. -/
def toInt? (n : Numeral) : Option Int :=
  if n.isWhole then
    if n.negative then (if n.whole = 0 then none else some (-(n.whole : Int)))
    else some n.whole
  else none

/-- `n * 10 ^ e` rounded to the nearest double with the given sign. -/
def nearestScaled (negative : Bool) (n : Nat) (e : Int) : Double :=
  if e < 0 then .ofQuotient negative n (Nat.pow 10 e.natAbs)
  else .ofQuotient negative (n * Nat.pow 10 e.toNat) 1

/-- The largest power of ten, up or down, that can matter to a double next to
the digits themselves. -/
def exponentBound : Nat := 400

/-- The nearest double.  An exponent so far out that the result is zero or
infinite anyway is cut down first. -/
def toDouble (n : Numeral) : Double :=
  let digits := ofDigits (digitsOf n.whole ++ n.fraction)
  let reach : Int := exponentBound + n.fraction.length + digitCount n.whole
  let e := max (-reach) (min reach (n.exponent.getD 0))
  nearestScaled n.negative digits (e - n.fraction.length)

/-- The leading digits whose number stays below `wordBound`, continuing from
`n`, and the digits after them. -/
def leading (n : Nat) : List Nat → Nat × List Nat
  | [] => (n, [])
  | d :: ds =>
    if 10 * n + d < wordBound then leading (10 * n + d) ds else (n, d :: ds)

/-- The digits that count, as one number, and the power of ten they are to be
multiplied by.  A digit of the whole part that is left out counts as a zero; one
of the fraction is dropped. -/
def kept (n : Numeral) : Nat × Int :=
  let (whole, left) := leading 0 (digitsOf n.whole)
  let (all, dropped) := leading whole n.fraction
  (all, (left.length : Int) - ((n.fraction.length - dropped.length : Nat) : Int))

/-- The double nearest to a power of ten. -/
def powerOfTen (k : Nat) : Double := .ofQuotient false (Nat.pow 10 k) 1

/-- The largest power of ten that is a finite double. -/
def largestPower : Nat := 308

/-- Divides by `10 ^ k`, by the largest power at a time while more is left. -/
def divideByPower (x : Double) (k : Nat) : Double :=
  if x.isZero then x
  else if k ≤ largestPower then x.div (powerOfTen k)
  else divideByPower (x.div (powerOfTen largestPower)) (k - largestPower)
termination_by k
decreasing_by simp [largestPower] at *; omega

/-- Scales a double by a power of ten; a result past the largest finite double
is no number. -/
def scaleByPower? (x : Double) (e : Int) : Option Double :=
  if 0 ≤ e then
    if x.isZero then some x
    else if e.toNat ≤ largestPower then
      let y := x.mul (powerOfTen e.toNat)
      if y.isInfinite then none else some y
    else none
  else some (divideByPower x e.natAbs)

/-- The sign put in front of a double that has none. -/
def signed (negative : Bool) (x : Double) : Double := .ofMagnitude negative x.magnitude

/-- The double of a numeral by way of the digits that fit into sixty-four bits
and one power of ten: two roundings where `toDouble` has one.  A number too large
for a double is refused. -/
def toDoubleByPowers? (n : Numeral) : Option Double :=
  let (digits, e) := n.kept
  (scaleByPower? (.ofInt digits) (e + n.exponent.getD 0)).map (signed n.negative)

/-! ## What a reader of interchange text takes a numeral for -/

/-- The integer, if sixty-four bits with a sign hold it. -/
def toInt64? (n : Numeral) : Option Int64 := do
  let i ← n.toInt?
  if -(signedBound : Int) ≤ i ∧ i < signedBound then some (Int64.ofInt i) else none

/-- The integer, if sixty-four bits hold it, with a sign or without. -/
def toStoredInt? (n : Numeral) : Option Int := do
  let i ← n.toInt?
  if -(signedBound : Int) ≤ i ∧ i < wordBound then some i else none

/-- The double.  An integer that sixty-four bits hold is rounded as such. -/
def toReadDouble? (n : Numeral) : Option Double :=
  match n.toStoredInt? with
  | some i => some (.ofInt i)
  | none => n.toDoubleByPowers?

end Numeral

end RowScope.Number
