import RowScope.Value.Basic
import RowScope.Json.Printer
import RowScope.Json.Reader

/-!
# Values as interchange text

* `Value.toJson` and `Value.ofJson?` write a value as an object with the name of
  its type and, unless it is null, its content; a pair is read as well.
* `signature` writes a list of values so that two lists get one text exactly
  when they agree in every value, floats bit by bit.
-/

namespace RowScope

open Number

/-- A finite double as a number; an infinity and a NaN have no numeral. -/
def Number.Double.toJson (x : Double) : Json :=
  if x.isNaN || x.isInfinite then .null else .number (x.numeral .interchange)

namespace Value

/-- The member that holds the type. -/
def typeMember : String := "type"

/-- The member that holds the content. -/
def contentMember : String := "value"

/-- An object of a type and a content. -/
def tagged (type : String) (content : Json) : Json :=
  .object [(typeMember, .text type), (contentMember, content)]

/-- The object of a null, which has no content. -/
def taggedNull : Json := .object [(typeMember, .text "Null")]

/-- A value as a document. -/
def toJson (v : Value) : Json :=
  match v with
  | .null => taggedNull
  | .bool b => tagged v.typeName (.bool b)
  | .int n => tagged v.typeName (.int n.toInt)
  | .float x => tagged v.typeName x.toJson
  | .text s => tagged v.typeName (.text s)

/-! ## Reading -/

/-- The value of a type and its content. -/
def ofTagged? (type : String) (content : Option Json) : Option Value :=
  match type, content with
  | "Null", none => some .null
  | "Null", some .null => some .null
  | "Bool", some (.bool b) => some (.bool b)
  | "Int", some (.number n) => n.toInt64?.map .int
  | "Float", some (.number n) => n.toReadDouble?.map .float
  | "Text", some (.text s) => some (.text s)
  | _, _ => none

/-- The name that a member gives for a type: as a text, or as the only name of an
object that holds nothing under it. -/
def typeGiven? : Json → Option String
  | .text type => some type
  | .object [(type, .null)] => some type
  | _ => none

/-- Reads a value: an object with one type and at most one content, whatever
other members it has, or an array of a type and a content. -/
def ofJson? : Json → Option Value
  | .object members =>
    match Json.named typeMember members, Json.named contentMember members with
    | [type], [] => (typeGiven? type).bind fun type => ofTagged? type none
    | [type], [content] => (typeGiven? type).bind fun type => ofTagged? type (some content)
    | _, _ => none
  | .array [.text type, content] => ofTagged? type (some content)
  | _ => none

/-- Reads a value from text. -/
def read? (s : String) : Option Value := (Json.read? s).bind ofJson?

/-! ## Signatures -/

/-- A value as it stands in a signature: a float by its bits, under a name of
its own. -/
def signatureJson : Value → Json
  | .float x => tagged "FloatBits" (.int x.bits.toNat)
  | v => v.toJson

/-- The text that identifies a list of values. -/
def signature (values : List Value) : String :=
  (Json.array (values.map signatureJson)).print

end Value

end RowScope
