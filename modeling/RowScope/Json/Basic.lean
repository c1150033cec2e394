import RowScope.Number.Numeral

/-!
# Interchange documents

A `Json` is a document of the interchange format as a tree.  Numbers stay
numerals, because what number a numeral stands for is decided by whoever wants
one, and members of an object stay a list, because a document may give a name
twice.  What is malformed inside can still be passed over, so it has a place of
its own in the tree.
-/

namespace RowScope

open Number

/-- A document of the interchange format. -/
inductive Json
  | null
  | bool (b : Bool)
  | number (n : Numeral)
  | text (s : String)
  | array (items : List Json)
  | object (members : List (String × Json))
  /-- A text with an escape that names no character, or an object that has such a
  text as a name. -/
  | malformed

namespace Json

/-- The number of an integer. -/
def int (n : Int) : Json := .number (.ofInt n)

mutual

/-- How many arrays and objects stand inside each other. -/
def depth : Json → Nat
  | .array items => depthItems items + 1
  | .object members => depthMembers members + 1
  | _ => 0

/-- The depth of the deepest of some items. -/
def depthItems : List Json → Nat
  | [] => 0
  | j :: js => max (depth j) (depthItems js)

/-- The depth of the deepest of some members. -/
def depthMembers : List (String × Json) → Nat
  | [] => 0
  | (_, j) :: ms => max (depth j) (depthMembers ms)

end

/-- The document of a text that was read, if its escapes name characters. -/
def ofText : Option String → Json
  | some s => .text s
  | none => .malformed

/-- Members under names whose escapes name characters. -/
def namedMembers? : List (Option String × Json) → Option (List (String × Json))
  | [] => some []
  | (some name, j) :: ms => (namedMembers? ms).map ((name, j) :: ·)
  | (none, _) :: _ => none

/-- The document of members that were read. -/
def ofMembers (members : List (Option String × Json)) : Json :=
  match namedMembers? members with
  | some ms => .object ms
  | none => .malformed

/-- The values of the members with a name, in order. -/
def named (name : String) (members : List (String × Json)) : List Json :=
  (members.filter fun m => m.1 = name).map Prod.snd

end Json

end RowScope
