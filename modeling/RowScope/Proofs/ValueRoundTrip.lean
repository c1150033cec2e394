import RowScope.Proofs.JsonRoundTrip
import RowScope.Value.Codec

/-!
# Written values are read back

A value is written as an object that names its type and holds its content, and it is read
from text the other way round.  For everything but floats the two are inverse, whatever is
in a text and up to both ends of the integers.

* `Numeral.toInt64?_ofInt`: an integer is what its numeral is taken for.
* `Value.ofJson?_toJson`: a value is what its document is taken for; the type that the
  document names selects how its content is read.
* `Value.Written` is the form that the format has for a value: the name of its type, and
  its content in the form of that type (`Value.Content`).  Every value is written so
  (`Value.written_toJson`).
* `Value.read?_written` puts form and reading together.
-/

namespace RowScope

open Number

/-! ## Integers -/

namespace Number.Numeral

/-- The text of an integer. -/
theorem chars_ofInt (n : Int) : (ofInt n).chars true = (toString n).toList := by
  unfold chars ofInt
  rw [Int.toString_eq_repr]
  cases n with
  | ofNat m => simp [Int.repr, Nat.repr]
  | negSucc m => simp [Int.repr, Nat.repr]

theorem toInt?_ofInt (n : Int) : (ofInt n).toInt? = some n := by
  unfold toInt? ofInt isWhole
  by_cases negative : n < 0
  · have nonzero : n.natAbs ≠ 0 := by omega
    simp only [negative, decide_true, List.isEmpty_nil, Option.isNone_none, Bool.and_self,
      if_true, nonzero, if_false, Option.some_inj]
    omega
  · simp only [negative, decide_false, List.isEmpty_nil, Option.isNone_none, Bool.and_self,
      if_true, Bool.false_eq_true, if_false, Option.some_inj]
    omega

/-- An integer of sixty-four bits is what its numeral is taken for. -/
theorem toInt64?_ofInt (n : Int64) : (ofInt n.toInt).toInt64? = some n := by
  have least := n.le_toInt
  have most := n.toInt_lt
  unfold toInt64?
  rw [toInt?_ofInt, Option.bind_eq_bind, Option.bind_some, if_pos ⟨least, most⟩,
    Int64.ofInt_toInt]

end Number.Numeral

/-! ## Values -/

namespace Value

variable {v : Value}

/-- A value is what its document is taken for. -/
theorem ofJson?_toJson (discrete : ∀ x, v ≠ .float x) : ofJson? v.toJson = some v := by
  cases v with
  | null => rfl
  | bool b => rfl
  | int n => exact congrArg (Option.map Value.int) (Numeral.toInt64?_ofInt n)
  | float x => exact absurd rfl (discrete x)
  | text s => rfl

theorem isPlain_toJson (discrete : ∀ x, v ≠ .float x) : v.toJson.isPlain = true := by
  cases v with
  | float x => exact absurd rfl (discrete x)
  | _ => rfl

/-- The content of a value as the format has it; a null has none. -/
inductive Content : Value → String → Prop
  | bool (b : Bool) : Content (.bool b) (toString b)
  | int (n : Int64) : Content (.int n) (toString n.toInt)
  | text {s : String} {es : List Char} (escapes : Json.Escapes s.toList es) :
    Content (.text s) ("\"" ++ String.ofList es ++ "\"")

/-- A value as the format has it: the name of its type and, unless it is null, its
content. -/
inductive Written : Value → String → Prop
  | null : Written .null "\x7b\"type\":\"Null\"\x7d"
  | typed {v : Value} {content : String} (held : Content v content) :
    Written v ("\x7b\"type\":\"" ++ v.typeName ++ "\",\"value\":" ++ content ++ "\x7d")

theorem print_tagged (v : Value) (content : Json) :
    (tagged v.typeName content).print =
      "\x7b\"type\":\"" ++ v.typeName ++ "\",\"value\":" ++ content.print ++ "\x7d" := by
  have type : Json.quoted typeMember = "\"type\"".toList := by decide
  have held : Json.quoted contentMember = "\"value\"".toList := by decide
  -- no name of a type needs an escape
  have plain : Json.escape v.typeName.toList = v.typeName.toList := by
    unfold typeName
    cases v.scalarType with
    | none => decide
    | some t => cases t <;> decide
  have named : Json.quoted v.typeName = '"' :: (v.typeName.toList ++ ['"']) := by
    rw [Json.quoted, plain]
  apply String.toList_injective
  simp [Json.print, tagged, Json.chars, Json.memberChars, type, held, named]

theorem written_toJson (discrete : ∀ x, v ≠ .float x) : Written v v.toJson.print := by
  cases v with
  | null => exact .null
  | bool b =>
    have content : (Json.bool b).print = toString b := by cases b <;> rfl
    rw [toJson, print_tagged, content]
    exact .typed (.bool b)
  | int n =>
    have content : (Json.int n.toInt).print = toString n.toInt := by
      rw [Json.print, Json.int, Json.chars, Numeral.chars_ofInt, String.ofList_toList]
    rw [toJson, print_tagged, content]
    exact .typed (.int n)
  | float x => exact absurd rfl (discrete x)
  | text s =>
    have content : (Json.text s).print = "\"" ++ String.ofList (Json.escape s.toList) ++ "\"" := by
      apply String.toList_injective
      simp [Json.print, Json.chars, Json.quoted]
    rw [toJson, print_tagged, content]
    exact .typed (.text (Json.escapes_escape s.toList))

/-- **Written values are read back.**  Every value but a float, whatever is in a text and
up to both ends of the integers, is written in the form of the format, and reading what is
written gives the same value of the same type. -/
theorem read?_written (v : Value) (discrete : ∀ x, v ≠ .float x) :
    read? v.toJson.print = some v ∧ Written v v.toJson.print := by
  refine ⟨?_, written_toJson discrete⟩
  rw [read?, Json.read?_print (isPlain_toJson discrete), Option.bind_some,
    ofJson?_toJson discrete]

/-! The least integer, and a text of characters that cannot stand between quotes as they
are. -/

theorem read?_written_extreme :
    (Value.int Int64.minValue).toJson.print =
        "\x7b\"type\":\"Int\",\"value\":-9223372036854775808\x7d" ∧
      read? (Value.int Int64.minValue).toJson.print = some (.int Int64.minValue) ∧
      (Value.text "\"\\\x00\n").toJson.print =
        "\x7b\"type\":\"Text\",\"value\":\"\\\"\\\\\\u0000\\n\"\x7d" ∧
      read? (Value.text "\"\\\x00\n").toJson.print = some (.text "\"\\\x00\n") := by
  have number := read?_written (.int Int64.minValue) fun x same => by cases same
  have text := read?_written (.text "\"\\\x00\n") fun x same => by cases same
  exact ⟨by decide +kernel, number.1, by decide +kernel, text.1⟩

end Value

end RowScope
