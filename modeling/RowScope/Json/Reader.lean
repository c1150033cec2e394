import RowScope.Json.Basic

/-!
# Reading interchange documents

One function per production of the format, each taking the characters at hand
and giving back what it read with the characters after it.  Blanks may stand
around every item, a text holds no character below the blank, and an escape
names a character.  Half of a surrogate pair alone names none; a text with one is
passed over as a malformed item.

The functions that call each other take a bound on the number of calls; a
document has fewer nested productions than characters, so `read?` sets the bound
by the length of the text.
-/

namespace RowScope.Json

open Number

/-- The characters that may stand around items. -/
def isBlank (c : Char) : Bool := c = ' ' || c = '\n' || c = '\t' || c = '\r'

/-- Leaves out blanks. -/
def skipBlanks (cs : List Char) : List Char := cs.dropWhile isBlank

/-- The value of a hexadecimal digit in either case. -/
def hexValue? (c : Char) : Option Nat :=
  if '0' ≤ c ∧ c ≤ '9' then some (c.toNat - 48)
  else if 'a' ≤ c ∧ c ≤ 'f' then some (c.toNat - 87)
  else if 'A' ≤ c ∧ c ≤ 'F' then some (c.toNat - 55)
  else none

/-- The number of four hexadecimal digits. -/
def hexValue4? (a b c d : Char) : Option Nat := do
  let a ← hexValue? a
  let b ← hexValue? b
  let c ← hexValue? c
  let d ← hexValue? d
  pure (((a * 16 + b) * 16 + c) * 16 + d)

/-- Whether a number is the first half of a surrogate pair. -/
def isHighHalf (n : Nat) : Bool := decide (0xD800 ≤ n ∧ n < 0xDC00)

/-- Whether a number is the second half of a surrogate pair. -/
def isLowHalf (n : Nat) : Bool := decide (0xDC00 ≤ n ∧ n < 0xE000)

/-- The character that a pair of surrogates names. -/
def joinHalves (high low : Nat) : Char :=
  Char.ofNat (0x10000 + (high - 0xD800) * 0x400 + (low - 0xDC00))

/-- The character that a letter after a backslash names. -/
def unescape? (c : Char) : Option Char :=
  if c = '"' ∨ c = '\\' ∨ c = '/' then some c
  else if c = 'b' then some (Char.ofNat 8)
  else if c = 'f' then some (Char.ofNat 12)
  else if c = 'n' then some '\n'
  else if c = 'r' then some '\r'
  else if c = 't' then some '\t'
  else none

/-- Reads the rest of a text up to the closing quote. -/
def readText : List Char → Option (List Char × List Char)
  | [] => none
  | '"' :: rest => some ([], rest)
  | '\\' :: 'u' :: a :: b :: c :: d :: rest =>
    match hexValue4? a b c d with
    | none => none
    | some n =>
      if isHighHalf n then
        match rest with
        | '\\' :: 'u' :: e :: f :: g :: h :: rest =>
          match hexValue4? e f g h with
          | none => none
          | some m =>
            if isLowHalf m then
              (readText rest).map fun (cs, rest) => (joinHalves n m :: cs, rest)
            else none
        | _ => none
      else if isLowHalf n then none
      else (readText rest).map fun (cs, rest) => (Char.ofNat n :: cs, rest)
  | '\\' :: c :: rest =>
    match unescape? c with
    | none => none
    | some c => (readText rest).map fun (cs, rest) => (c :: cs, rest)
  | c :: rest =>
    if c.toNat < 32 ∨ c = '\\' then none
    else (readText rest).map fun (cs, rest) => (c :: cs, rest)

/-- Takes the rest of a text off, whatever its escapes by number name. -/
def skipText : List Char → Option (List Char)
  | [] => none
  | '"' :: rest => some rest
  | '\\' :: 'u' :: a :: b :: c :: d :: rest =>
    if (hexValue4? a b c d).isSome then skipText rest else none
  | '\\' :: c :: rest => if (unescape? c).isSome then skipText rest else none
  | c :: rest => if c.toNat < 32 ∨ c = '\\' then none else skipText rest

/-- Reads the rest of a text and gives the text if its escapes name characters. -/
def readAnyText (cs : List Char) : Option (Option String × List Char) :=
  match readText cs with
  | some (s, rest) => some (some (String.ofList s), rest)
  | none => (skipText cs).map fun rest => (none, rest)

/-- Reads the name of a member and the colon after it. -/
def readName (cs : List Char) : Option (Option String × List Char) :=
  match skipBlanks cs with
  | '"' :: rest =>
    match readAnyText rest with
    | none => none
    | some (name, rest) =>
      match skipBlanks rest with
      | ':' :: rest => some (name, rest)
      | _ => none
  | _ => none

mutual

/-- Reads a document. -/
def readValue : Nat → List Char → Option (Json × List Char)
  | 0, _ => none
  | bound + 1, cs =>
    match skipBlanks cs with
    | 'n' :: 'u' :: 'l' :: 'l' :: rest => some (.null, rest)
    | 't' :: 'r' :: 'u' :: 'e' :: rest => some (.bool true, rest)
    | 'f' :: 'a' :: 'l' :: 's' :: 'e' :: rest => some (.bool false, rest)
    | '"' :: rest => (readAnyText rest).map fun (s, rest) => (ofText s, rest)
    | '[' :: rest =>
      match skipBlanks rest with
      | ']' :: rest => some (.array [], rest)
      | rest => (readItems bound rest).map fun (js, rest) => (.array js, rest)
    | '{' :: rest =>
      match skipBlanks rest with
      | '}' :: rest => some (.object [], rest)
      | rest => (readMembers bound rest).map fun (ms, rest) => (ofMembers ms, rest)
    | cs => (Numeral.read cs).map fun (n, rest) => (.number n, rest)

/-- Reads the items of an array that is not empty, up to its end. -/
def readItems : Nat → List Char → Option (List Json × List Char)
  | 0, _ => none
  | bound + 1, cs =>
    match readValue bound cs with
    | none => none
    | some (j, rest) =>
      match skipBlanks rest with
      | ',' :: rest => (readItems bound rest).map fun (js, rest) => (j :: js, rest)
      | ']' :: rest => some ([j], rest)
      | _ => none

/-- Reads the members of an object that is not empty, up to its end. -/
def readMembers : Nat → List Char → Option (List (Option String × Json) × List Char)
  | 0, _ => none
  | bound + 1, cs =>
    match readName cs with
    | none => none
    | some (name, rest) =>
      match readValue bound rest with
      | none => none
      | some (j, rest) =>
        match skipBlanks rest with
        | ',' :: rest => (readMembers bound rest).map fun (ms, rest) => ((name, j) :: ms, rest)
        | '}' :: rest => some ([(name, j)], rest)
        | _ => none

end

/-- The document that a text holds, if it holds one and nothing but blanks
around it. -/
def read? (s : String) : Option Json :=
  match readValue (2 * s.length + 2) s.toList with
  | none => none
  | some (j, rest) => if (skipBlanks rest).isEmpty then some j else none

end RowScope.Json
