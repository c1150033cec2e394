import RowScope.Number.Layout
import RowScope.Text.Quoted

/-!
# Values and their types

A `Value` is what a field of a row, a parameter or a literal holds.  `null` has
no type; every other value has the one of its constructor.  Equality of this
type is identity: two floats are equal only when all their bits are.  What the
language of predicates calls equal is `same`, and its order is `compare`.

* An integer stands where a float is declared: `ScalarType.accepts` lets it in
  and `ScalarType.coerce` turns it into the nearest float.
* Integers and floats compare with each other by way of that float.
-/

namespace RowScope

open Number Text

/-- The types that a field or a parameter may be declared with. -/
inductive ScalarType
  | bool
  | int
  | float
  | text
deriving DecidableEq, Repr

/-- A value; integers have sixty-four bits. -/
inductive Value
  | null
  | bool (b : Bool)
  | int (n : Int64)
  | float (x : Double)
  | text (s : String)
deriving DecidableEq

instance : Inhabited Value := ⟨.null⟩

namespace ScalarType

/-- All types, in the order in which they are listed. -/
def all : List ScalarType := [.bool, .int, .float, .text]

/-- The name of a type. -/
def name : ScalarType → String
  | .bool => "Bool"
  | .int => "Int"
  | .float => "Float"
  | .text => "Text"

/-- The type with a name; the case of the letters counts. -/
def ofName? (name : String) : Option ScalarType := all.find? fun t => t.name = name

/-- What is said of a name that no type has. -/
def unknownName : String := "Matching variant not found"

def isNumeric : ScalarType → Bool
  | .int | .float => true
  | .bool | .text => false

/-- Whether values of two types stand in an order: those of one type do, and
numbers do with each other. -/
def comparableWith (s t : ScalarType) : Bool := s = t || (s.isNumeric && t.isNumeric)

end ScalarType

namespace Value

/-- The type of a value; a null has none. -/
def scalarType : Value → Option ScalarType
  | .null => none
  | .bool _ => some .bool
  | .int _ => some .int
  | .float _ => some .float
  | .text _ => some .text

/-- The name that messages call the type of a value by. -/
def typeName (v : Value) : String :=
  match v.scalarType with
  | some t => t.name
  | none => "Null"

def isNull : Value → Bool
  | .null => true
  | _ => false

/-- Whether a value is the truth value that a predicate holds by. -/
def isTrue : Value → Bool
  | .bool true => true
  | _ => false

/-- The float nearest to an integer. -/
def widen (n : Int64) : Double := .ofInt n.toInt

/-- The order of two values, where they have one.  Nulls are equal to each
other, false comes before true, and texts are ordered by their code points. -/
def compare : Value → Value → Option Ordering
  | .null, .null => some .eq
  | .bool a, .bool b => some (Ord.compare a b)
  | .int a, .int b => some (Ord.compare a.toInt b.toInt)
  | .float a, .float b => a.compare b
  | .int a, .float b => (widen a).compare b
  | .float a, .int b => a.compare (widen b)
  | .text a, .text b => some (Ord.compare a b)
  | _, _ => none

/-- Whether two values are of one type and equal.  Both zeros are, a NaN equals
nothing, and an integer equals no float. -/
def same : Value → Value → Bool
  | .null, .null => true
  | .bool a, .bool b => a == b
  | .int a, .int b => a == b
  | .float a, .float b => a.same b
  | .text a, .text b => a == b
  | _, _ => false

/-- The text that a value is shown as inside a predicate. -/
def display : Value → String
  | .null => "NULL"
  | .bool true => "TRUE"
  | .bool false => "FALSE"
  | .int n => toString n.toInt
  | .float x => x.text
  | .text s => quote s

end Value

namespace ScalarType

/-- Whether a value may stand where a type is declared: one of the type may, and
an integer may where a float is. -/
def accepts (t : ScalarType) (v : Value) : Bool :=
  match t, v with
  | _, .null => false
  | .float, .int _ => true
  | t, v => v.scalarType = some t

/-- A value as it is kept where a type is declared. -/
def coerce (t : ScalarType) (v : Value) : Value :=
  match t, v with
  | .float, .int n => .float (Value.widen n)
  | _, v => v

end ScalarType

end RowScope
