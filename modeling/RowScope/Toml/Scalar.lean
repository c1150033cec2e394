import RowScope.Json.Reader
import RowScope.Settings.Item

/-!
# Scalars of settings files in lines

The texts, numbers, truth values and dates that a settings file in lines holds.
Every reading function takes the characters at hand and gives back what it read
with the characters after it.

A text stands between double quotes, with escapes, or between single quotes,
without; three quotes let it go over several lines.  Everything else is a run of
characters that means what it spells as a whole.
-/

namespace RowScope.Toml

open Number

/-- The characters that may stand around items of a line. -/
def isBlank (c : Char) : Bool := c = ' ' || c = '\t'

/-- Leaves out blanks. -/
def skipBlanks (cs : List Char) : List Char := cs.dropWhile isBlank

/-- Whether a character may stand in a text or a comment of one line. -/
def isPlain (c : Char) : Bool := c = '\t' || (32 ≤ c.toNat && c.toNat ≠ 127)

/-- Takes the end of a line off. -/
def newline? : List Char → Option (List Char)
  | '\n' :: rest => some rest
  | '\r' :: '\n' :: rest => some rest
  | _ => none

/-! ## Texts -/

/-- The number of hexadecimal digits in a row. -/
def hexNumber? (cs : List Char) : Option Nat :=
  cs.foldl (fun acc c => do
    let n ← acc
    let d ← Json.hexValue? c
    pure (16 * n + d)) (some 0)

/-- The character with a number, if there is one. -/
def charOf? (n : Nat) : Option Char :=
  if n.isValidChar then some (Char.ofNat n) else none

/-- The character that a letter after a backslash names. -/
def unescape? (c : Char) : Option Char :=
  if c = '/' then none
  else if c = 'e' then some (Char.ofNat 27)
  else Json.unescape? c

/-- Puts a character in front of what was read. -/
def consTo (c : Char) (x : Option (List Char × List Char)) : Option (List Char × List Char) :=
  x.map fun (cs, rest) => (c :: cs, rest)

/-- Reads the rest of an escaped text of one line. -/
def readEscaped : List Char → Option (List Char × List Char)
  | [] => none
  | '"' :: rest => some ([], rest)
  | '\\' :: 'x' :: a :: b :: rest => do
    let ch ← (hexNumber? [a, b]).bind charOf?
    consTo ch (readEscaped rest)
  | '\\' :: 'u' :: a :: b :: c :: d :: rest => do
    let ch ← (hexNumber? [a, b, c, d]).bind charOf?
    consTo ch (readEscaped rest)
  | '\\' :: 'U' :: a :: b :: c :: d :: e :: f :: g :: h :: rest => do
    let ch ← (hexNumber? [a, b, c, d, e, f, g, h]).bind charOf?
    consTo ch (readEscaped rest)
  | '\\' :: c :: rest => do
    let ch ← unescape? c
    consTo ch (readEscaped rest)
  | c :: rest => if isPlain c && c ≠ '\\' then consTo c (readEscaped rest) else none

/-- Reads the rest of a verbatim text of one line. -/
def readVerbatim : List Char → Option (List Char × List Char)
  | [] => none
  | c :: rest =>
    if c = '\'' then some ([], rest)
    else if isPlain c then consTo c (readVerbatim rest)
    else none

/-- Whether the line ends here or after blanks. -/
def endsLine (cs : List Char) : Bool := (newline? (skipBlanks cs)).isSome

/-- Reads the rest of an escaped text of several lines.  Up to two quotes may
stand before the closing ones; `folding` says that blanks and line ends are left
out up to the next character. -/
def readEscapedLines (folding : Bool) : List Char → Option (List Char × List Char)
  | [] => none
  | '"' :: '"' :: '"' :: rest =>
    match rest with
    | '"' :: '"' :: rest => some (['"', '"'], rest)
    | '"' :: rest => some (['"'], rest)
    | rest => some ([], rest)
  | '\\' :: 'x' :: a :: b :: rest => do
    let ch ← (hexNumber? [a, b]).bind charOf?
    consTo ch (readEscapedLines false rest)
  | '\\' :: 'u' :: a :: b :: c :: d :: rest => do
    let ch ← (hexNumber? [a, b, c, d]).bind charOf?
    consTo ch (readEscapedLines false rest)
  | '\\' :: 'U' :: a :: b :: c :: d :: e :: f :: g :: h :: rest => do
    let ch ← (hexNumber? [a, b, c, d, e, f, g, h]).bind charOf?
    consTo ch (readEscapedLines false rest)
  | '\\' :: c :: rest =>
    if endsLine (c :: rest) then readEscapedLines true (c :: rest)
    else do
      let ch ← unescape? c
      consTo ch (readEscapedLines false rest)
  | '\r' :: '\n' :: rest =>
    if folding then readEscapedLines true rest else consTo '\n' (readEscapedLines false rest)
  | c :: rest =>
    if folding && (isBlank c || c = '\n') then readEscapedLines true rest
    else if (isPlain c && c ≠ '\\') || c = '\n' then consTo c (readEscapedLines false rest)
    else none

/-- Reads the rest of a verbatim text of several lines. -/
def readVerbatimLines : List Char → Option (List Char × List Char)
  | [] => none
  | '\r' :: '\n' :: rest => consTo '\n' (readVerbatimLines rest)
  | c :: rest =>
    if c = '\'' then
      match rest with
      | '\'' :: '\'' :: rest =>
        match rest with
        | '\'' :: '\'' :: rest => some (['\'', '\''], rest)
        | '\'' :: rest => some (['\''], rest)
        | rest => some ([], rest)
      | _ => consTo c (readVerbatimLines rest)
    else if isPlain c || c = '\n' then consTo c (readVerbatimLines rest)
    else none

/-- Leaves out a line end right after the opening quotes of a text of several
lines. -/
def skipFirstNewline (cs : List Char) : List Char := (newline? cs).getD cs

/-- Reads a text of one line. -/
def readLineText? : List Char → Option (List Char × List Char)
  | c :: rest =>
    if c = '"' then readEscaped rest
    else if c = '\'' then readVerbatim rest
    else none
  | [] => none

/-- Reads a text. -/
def readText? : List Char → Option (List Char × List Char)
  | a :: b :: c :: rest =>
    if a = b ∧ b = c ∧ a = '"' then readEscapedLines false (skipFirstNewline rest)
    else if a = b ∧ b = c ∧ a = '\'' then readVerbatimLines (skipFirstNewline rest)
    else readLineText? (a :: b :: c :: rest)
  | cs => readLineText? cs

/-! ## Numbers -/

/-- Digits without the underscores between them. -/
def plainDigits? (isDigit : Char → Bool) : List Char → Option (List Char)
  | [] => none
  | [c] => if isDigit c then some [c] else none
  | c :: '_' :: rest => if isDigit c then (plainDigits? isDigit rest).map (c :: ·) else none
  | c :: rest => if isDigit c then (plainDigits? isDigit rest).map (c :: ·) else none

/-- The sign in front of a number, and the rest. -/
def splitSign : List Char → Bool × List Char := Numeral.readSign

/-- The digits of a whole number, which starts with a zero only if it is one. -/
def wholeDigits? (cs : List Char) : Option (List Nat) :=
  match plainDigits? Char.isDigit cs with
  | some ('0' :: _ :: _) => none
  | some ds => some (takeDigits ds).1
  | none => none

/-- The digits of a number after a mark of its base. -/
def basedNat? (base : Nat) (cs : List Char) : Option Nat :=
  let isDigit := fun c => match Json.hexValue? c with
    | some d => decide (d < base)
    | none => false
  (plainDigits? isDigit cs).map fun ds =>
    ds.foldl (fun n c => base * n + (Json.hexValue? c).getD 0) 0

/-- An integer of sixty-four bits with a sign. -/
def intItem? (n : Int) : Option Item :=
  if -(signedBound : Int) ≤ n ∧ n < signedBound then some (.int n) else none

/-- The integer that a run of characters spells. -/
def integer? (cs : List Char) : Option Item :=
  match cs with
  | '0' :: 'x' :: rest => (basedNat? 16 rest).bind fun n => intItem? n
  | '0' :: 'o' :: rest => (basedNat? 8 rest).bind fun n => intItem? n
  | '0' :: 'b' :: rest => (basedNat? 2 rest).bind fun n => intItem? n
  | cs =>
    let (negative, rest) := splitSign cs
    (wholeDigits? rest).bind fun ds =>
      intItem? (if negative then -(ofDigits ds : Int) else ofDigits ds)

/-- Whether a character starts the exponent of a number. -/
def marksExponent (c : Char) : Bool := c = 'e' || c = 'E'

/-- The exponent that a run of characters spells. -/
def exponent? : List Char → Option (Option Int)
  | [] => some none
  | c :: rest =>
    if marksExponent c then
      let (negative, digits) := splitSign rest
      (plainDigits? Char.isDigit digits).map fun ds =>
        let n := ofDigits (takeDigits ds).1
        some (if negative then -(n : Int) else n)
    else none

/-- The fraction and exponent that a run of characters spells. -/
def fraction? : List Char → Option (List Nat × Option Int)
  | '.' :: rest => do
    let ds ← plainDigits? Char.isDigit (rest.takeWhile fun c => !marksExponent c)
    let e ← exponent? (rest.dropWhile fun c => !marksExponent c)
    pure ((takeDigits ds).1, e)
  | cs => (exponent? cs).map fun e => ([], e)

/-- Whether a character ends the whole part of a number. -/
def endsWhole (c : Char) : Bool := c = '.' || marksExponent c

/-- The float that a run of characters spells, with a fraction, an exponent or
both; one too large for a double spells none. -/
def float? (cs : List Char) : Option Item := do
  let (negative, rest) := splitSign cs
  if rest = ['i', 'n', 'f'] then some (.float (.ofMagnitude negative Double.infinity))
  else if rest = ['n', 'a', 'n'] then
    some (.float (.ofMagnitude negative (Double.infinity + Double.fractions / 2)))
  else
    let whole ← wholeDigits? (rest.takeWhile fun c => !endsWhole c)
    let tail := rest.dropWhile fun c => !endsWhole c
    if tail.isEmpty then none
    let (fraction, e) ← fraction? tail
    let x := (⟨negative, ofDigits whole, fraction, e⟩ : Numeral).toDouble
    if x.isInfinite then none else some (.float x)

/-! ## Dates -/

/-- The number of two digits, if it is between two bounds. -/
def twoDigits? (low high : Nat) (a b : Char) : Option Nat := do
  let a ← digit? a
  let b ← digit? b
  let n := 10 * a + b
  if low ≤ n ∧ n ≤ high then some n else none

/-- The number of days of a month. -/
def daysOf (year month : Nat) : Nat :=
  if month = 2 then
    if year % 4 = 0 ∧ (year % 100 ≠ 0 ∨ year % 400 = 0) then 29 else 28
  else if month = 4 ∨ month = 6 ∨ month = 9 ∨ month = 11 then 30
  else 31

/-- Takes a date off. -/
def date? : List Char → Option (List Char)
  | a :: b :: c :: d :: '-' :: e :: f :: '-' :: g :: h :: rest => do
    let century ← twoDigits? 0 99 a b
    let year ← twoDigits? 0 99 c d
    let month ← twoDigits? 1 12 e f
    let _ ← twoDigits? 1 (daysOf (100 * century + year) month) g h
    pure rest
  | _ => none

/-- Takes the seconds of a time of day off, if there are any, with or without a
fraction. -/
def seconds? : List Char → Option (List Char)
  | ':' :: a :: b :: rest => do
    let _ ← twoDigits? 0 60 a b
    match rest with
    | '.' :: rest =>
      match takeDigits rest with
      | ([], _) => none
      | (_, rest) => some rest
    | rest => some rest
  | rest => some rest

/-- Takes a time of day off. -/
def time? : List Char → Option (List Char)
  | a :: b :: ':' :: c :: d :: rest => do
    let _ ← twoDigits? 0 23 a b
    let _ ← twoDigits? 0 59 c d
    seconds? rest
  | _ => none

/-- Takes the offset of a time zone off. -/
def offset? : List Char → Option (List Char)
  | [] => some []
  | c :: rest =>
    if c = 'Z' ∨ c = 'z' then some rest
    else if c = '+' ∨ c = '-' then
      match rest with
      | a :: b :: ':' :: d :: e :: rest => do
        let _ ← twoDigits? 0 23 a b
        let _ ← twoDigits? 0 59 d e
        pure rest
      | _ => none
    else none

/-- Whether a run of characters spells a date, a time or both. -/
def isDate (cs : List Char) : Bool :=
  match date? cs with
  | none => time? cs == some []
  | some [] => true
  | some (c :: rest) =>
    (c = 'T' || c = 't' || c = ' ') && ((time? rest).bind offset?) == some []

/-! ## Everything that is not a text -/

/-- Whether a character can belong to a number, a truth value or a date. -/
def isWordChar (c : Char) : Bool :=
  c.isAlphanum || c = '_' || c = '+' || c = '-' || c = '.' || c = ':'

/-- Splits off the run of characters that spells an item.  A blank belongs to it
only between a date and a time. -/
def splitWord (cs : List Char) : List Char × List Char :=
  let word := cs.takeWhile isWordChar
  let rest := cs.dropWhile isWordChar
  match date? word, rest with
  | some [], ' ' :: a :: b :: more =>
    if a.isDigit && b.isDigit then
      let time := (a :: b :: more).takeWhile isWordChar
      (word ++ ' ' :: time, (a :: b :: more).dropWhile isWordChar)
    else (word, rest)
  | _, _ => (word, rest)

/-- The item that a run of characters spells. -/
def wordItem? (cs : List Char) : Option Item :=
  if cs = ['t', 'r', 'u', 'e'] then some (.bool true)
  else if cs = ['f', 'a', 'l', 's', 'e'] then some (.bool false)
  else if isDate cs then some (.text (String.ofList cs))
  else match integer? cs with
    | some item => some item
    | none => float? cs

end RowScope.Toml
