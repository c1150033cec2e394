import RowScope.Number.Layout

/-!
# Items of a settings file

A settings file gives names to items of any type, whatever its format.  A reader
of settings asks for a word or a truth value, and an item that can stand for one
is converted: numbers and truth values into each other, and texts that spell
one.  A float outside the words stands for the nearest one, an integer for none.
Lists and tables stand for nothing, so what is in them is not kept.
-/

namespace RowScope

open Number

/-- What a settings file gives a name to. -/
inductive Item
  | null
  | bool (b : Bool)
  | int (n : Int)
  | float (x : Double)
  | text (s : String)
  | list
  | table
deriving DecidableEq

namespace Item

/-- The truth value that a word spells, in letters of either case. -/
def spelledBool? (s : String) : Option Bool :=
  let word := String.ofList (s.toList.map Char.toLower)
  if ["true", "on", "yes"].contains word then some true
  else if ["false", "off", "no"].contains word then some false
  else none

/-- The truth value that a word or a single digit spells. -/
def spelledFlag? (s : String) : Option Bool :=
  if s = "1" then some true
  else if s = "0" then some false
  else spelledBool? s

/-- The natural number that a text spells: decimal digits, with or without a
plus. -/
def spelledNat? (s : String) : Option Nat :=
  let digits := match s.toList with
    | '+' :: rest => rest
    | cs => cs
  match takeDigits digits with
  | ([], _) => none
  | (ds, []) => some (ofDigits ds)
  | _ => none

/-- The word with a number, if there is one. -/
def wordOf? (n : Int) : Option UInt64 :=
  if 0 ≤ n ∧ n < wordBound then some (UInt64.ofNat n.toNat) else none

/-- The word nearest to a float, which is rounded first, a half away from zero.
A NaN is nearest to zero. -/
def nearestWord (x : Double) : UInt64 :=
  if x.isNaN then 0
  else if x.isInfinite then
    if x.negative then 0 else UInt64.ofNat (wordBound - 1)
  else UInt64.ofNat (min (wordBound - 1) x.roundHalfAway.toNat)

/-- The word that an item stands for. -/
def word? : Item → Option UInt64
  | .bool b => some (if b then 1 else 0)
  | .int n => wordOf? n
  | .float x => some (nearestWord x)
  | .text s =>
    match spelledBool? s with
    | some b => some (if b then 1 else 0)
    | none => (spelledNat? s).bind fun n => wordOf? n
  | .null | .list | .table => none

/-- The truth value that an item stands for. -/
def flag? : Item → Option Bool
  | .bool b => some b
  | .int n => some (n != 0)
  | .float x => some !x.isZero
  | .text s => spelledFlag? s
  | .null | .list | .table => none

end Item

end RowScope
