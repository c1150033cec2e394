import RowScope.Value.Basic

/-!
# Comparison operators

An operator holds of two values by their order.  Where they have no order none
holds, and where one of them is null the four that ask for an order do not hold
either, although two nulls are equal.
-/

namespace RowScope

/-- The operators that a predicate compares two values with. -/
inductive Comparison
  | eq
  | ne
  | lt
  | le
  | gt
  | ge
deriving DecidableEq, Repr

namespace Comparison

/-- All operators, in the order in which they are listed. -/
def all : List Comparison := [.eq, .ne, .lt, .le, .gt, .ge]

/-- The word for an operator. -/
def word : Comparison → String
  | .eq => "eq"
  | .ne => "ne"
  | .lt => "lt"
  | .le => "le"
  | .gt => "gt"
  | .ge => "ge"

/-- The operator that a word stands for. -/
def ofWord? (word : String) : Option Comparison := all.find? fun op => op.word = word

/-- The sign that an operator is shown as. -/
def symbol : Comparison → String
  | .eq => "="
  | .ne => "<>"
  | .lt => "<"
  | .le => "<="
  | .gt => ">"
  | .ge => ">="

/-- Whether an operator asks for an order and not just for equality. -/
def isOrdering : Comparison → Bool
  | .eq | .ne => false
  | .lt | .le | .gt | .ge => true

/-- Whether an operator admits an order. -/
def admits (op : Comparison) (o : Ordering) : Bool :=
  match op with
  | .eq => o == .eq
  | .ne => o != .eq
  | .lt => o == .lt
  | .le => o != .gt
  | .gt => o == .gt
  | .ge => o != .lt

/-- Whether an operator holds of two values. -/
def apply (op : Comparison) (a b : Value) : Bool :=
  if op.isOrdering && (a.isNull || b.isNull) then false
  else match a.compare b with
    | some o => op.admits o
    | none => false

end Comparison

end RowScope
