import RowScope.Number.Numeral
import RowScope.Settings.Item

/-!
# Names that reach into items

A name of the outermost table of a settings file may be a path: a root and any
number of steps, `.part` into a table or `[index]` into a list.  An item given
under a path makes its root a table or a list, as the first step says.  A name
that is no path stands for itself as a whole.
-/

namespace RowScope.Settings

open Number

/-- A step of a path. -/
inductive Step
  | part (name : String)
  | index (i : Int)
deriving DecidableEq

/-- Whether a character may stand in a part of a path. -/
def isPartChar (c : Char) : Bool := c.isAlphanum || c = '_' || c = '-'

/-- Reads a part of a path, which is not empty. -/
def readPart? (cs : List Char) : Option (String × List Char) :=
  match cs.takeWhile isPartChar with
  | [] => none
  | part => some (String.ofList part, cs.dropWhile isPartChar)

/-- Whether a character is a blank. -/
def isBlank (c : Char) : Bool := c = ' ' || c = '\t'

/-- Reads the digits of an index; an index has sixty-four bits with a sign. -/
def readDigits? (negative : Bool) (cs : List Char) : Option (Int × List Char) :=
  match takeDigits cs with
  | ([], _) => none
  | (ds, rest) =>
    let n := if negative then -(ofDigits ds : Int) else ofDigits ds
    if -(signedBound : Int) ≤ n ∧ n < signedBound then some (n, rest) else none

/-- Reads an index up to the closing bracket. -/
def readIndex? (cs : List Char) : Option (Int × List Char) := do
  let (i, rest) ← match cs.dropWhile isBlank with
    | '-' :: rest => readDigits? true rest
    | cs => readDigits? false cs
  match rest.dropWhile isBlank with
  | ']' :: rest => some (i, rest)
  | _ => none

/-- Reads steps up to the end; a path has fewer steps than characters. -/
def readSteps? : Nat → List Char → Option (List Step)
  | _, [] => some []
  | 0, _ => none
  | bound + 1, c :: cs =>
    if c = '.' then do
      let (part, rest) ← readPart? cs
      let steps ← readSteps? bound rest
      pure (.part part :: steps)
    else if c = '[' then do
      let (i, rest) ← readIndex? cs
      let steps ← readSteps? bound rest
      pure (.index i :: steps)
    else none

/-- The root and the steps of a path. -/
def path? (name : String) : Option (String × List Step) := do
  let (root, rest) ← readPart? name.toList
  let steps ← readSteps? rest.length rest
  pure (root, steps)

/-- The root of a name and what an item under the name makes of it. -/
def rooted (member : String × Item) : String × Item :=
  match path? member.1 with
  | some (root, .part _ :: _) => (root, .table)
  | some (root, .index _ :: _) => (root, .list)
  | some (_, []) | none => member

end RowScope.Settings
