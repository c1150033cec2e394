import RowScope.Dict
import RowScope.Settings.Basic
import RowScope.Settings.Path
import RowScope.Toml.Document

/-!
# Settings from files

The format of a file is what its name ends in.  The names of its outermost table
are paths whose roots name the settings: one that is not named keeps its default,
one that is given under two names is refused, and other names mean nothing.
-/

namespace RowScope

open Number

/-! ## Interchange documents as items -/

namespace Json

mutual

/-- Whether every text of a document spells characters and a double can stand for
every number. -/
def isWellFormed : Json → Bool
  | .number n => n.toReadDouble?.isSome
  | .array items => areWellFormed items
  | .object members => membersAreWellFormed members
  | .malformed => false
  | _ => true

/-- Whether all items are well formed. -/
def areWellFormed : List Json → Bool
  | [] => true
  | j :: js => isWellFormed j && areWellFormed js

/-- Whether what stands under the names of an object is well formed. -/
def membersAreWellFormed : List (String × Json) → Bool
  | [] => true
  | (_, j) :: ms => isWellFormed j && membersAreWellFormed ms

end

/-- How deep a document with settings may be. -/
def maxDepth : Nat := 127

/-- What a member of a settings file gives.  A number is an integer if
sixty-four bits hold it, with a sign or without, and a float otherwise. -/
def toItem : Json → Item
  | .null => .null
  | .bool b => .bool b
  | .number n =>
    match n.toStoredInt?, n.toReadDouble? with
    | some i, _ => .int i
    | none, some x => .float x
    | none, none => .null
  | .text s => .text s
  | .array _ => .list
  | .object _ => .table
  | .malformed => .null

/-- The names of the outermost object of a file and what they stand for; of two
members with one name the last counts. -/
def readItems? (s : String) : Option (List (String × Item)) :=
  match read? s with
  | some (.object members) =>
    if depth (.object members) ≤ maxDepth && isWellFormed (.object members) then
      some (members.foldl (fun items m => Entries.put m.1 m.2.toItem items) [])
    else none
  | _ => none

end Json

/-! ## Files -/

namespace Settings

/-- The formats that a settings file may have. -/
inductive Format
  | toml
  | json
deriving DecidableEq, Repr

/-- What stands after the last point of a file name; a name without a point, or
with only one at its beginning, has no such ending. -/
def ending? (file : String) : Option String :=
  let reversed := file.toList.reverse
  let ending := reversed.takeWhile fun c => c ≠ '.'
  match reversed.drop ending.length with
  | _ :: _ :: _ => some (String.ofList ending.reverse)
  | _ => none

/-- The format of a file. -/
def Format.ofFile? (file : String) : Option Format :=
  match ending? file with
  | some "toml" => some .toml
  | some "json" => some .json
  | _ => none

/-- A text without the mark of its byte order, which may stand at its head
once. -/
def withoutMark (content : String) : String :=
  match content.toList with
  | c :: rest => if c.toNat = 0xFEFF then String.ofList rest else content
  | [] => content

/-- The names that a file gives and what they stand for.  Lines may have a mark
of their own after that of the file. -/
def Format.read? (f : Format) (content : String) : Option (List (String × Item)) :=
  match f with
  | .toml => Toml.read? (withoutMark content)
  | .json => Json.readItems? content

/-- A setting by its names: its default if none is given. -/
def itemOr {α : Type} (convert : Item → Option α) (default : α) (names : List String)
    (items : List (String × Item)) : Option α :=
  match items.filter fun m => names.contains m.1 with
  | [] => some default
  | [m] => convert m.2
  | _ => none

/-- The settings that a file gives. -/
def ofItems? (items : List (String × Item)) : Option Settings := do
  let capacity ← itemOr Item.word? default.capacity capacityNames items
  let shards ← itemOr Item.word? default.shards shardsNames items
  let activate ← itemOr Item.flag? default.activateOnFirstSession activateNames items
  pure ⟨capacity, shards, activate⟩

/-- The settings of a file, in the range that a cache can have.  A file that is
not there has none. -/
def ofFile? (file : String) (content : Option String) : Option Settings := do
  let format ← Format.ofFile? file
  let content ← content
  let items ← format.read? (withoutMark content)
  let settings ← ofItems? (items.map rooted)
  pure settings.normalized

end Settings

end RowScope
