/-!
# Text in columns

A `Column` cuts a text to at most `precision` characters and then fills it up
with blanks to `width` characters.  Characters are code points, however wide
they are shown.
-/

namespace RowScope.Text

/-- Where a text stands in its column. -/
inductive Alignment
  | left
  | centre
  | right
deriving DecidableEq, Repr

/-- A column: `none` sets no limit to a text. -/
structure Column where
  alignment : Alignment := .left
  width : Nat := 0
  precision : Option Nat := none
deriving DecidableEq, Repr

/-- The blanks before and after a text that is `missing` characters short.  In
the centre the odd blank goes after it. -/
def Alignment.blanks (a : Alignment) (missing : Nat) : Nat × Nat :=
  match a with
  | .left => (0, missing)
  | .centre => (missing / 2, missing - missing / 2)
  | .right => (missing, 0)

/-- The characters of a text, cut and filled. -/
def Column.layChars (c : Column) (cs : List Char) : List Char :=
  let cut := match c.precision with
    | some n => cs.take n
    | none => cs
  let (before, after) := c.alignment.blanks (c.width - cut.length)
  List.replicate before ' ' ++ cut ++ List.replicate after ' '

/-- A text, cut and filled. -/
def Column.lay (c : Column) (s : String) : String := String.ofList (c.layChars s.toList)

end RowScope.Text
