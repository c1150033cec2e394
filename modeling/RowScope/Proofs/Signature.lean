import RowScope.Proofs.JsonRoundTrip
import RowScope.Value.Codec

/-!
# Signatures tell lists of values apart

Two lists of values have one signature only if they are the same list, floats compared
by their bits.

* `Value.read?_signature`: a signature is the text of a plain document, so reading it gives
  the document back, whatever the texts in it look like.
* `Value.signatureJson_injective`: the document of a value names its type beside its
  content.
* `Value.Agree` is what the signature of a value tells of it, and `Value.signature_eq_iff`
  that the signature of a list tells this of every value, and how many there are.
-/

namespace RowScope.Value

open Number

theorem isPlain_signatureJson (v : Value) : (signatureJson v).isPlain = true := by
  cases v <;> rfl

theorem allPlain_signatureJson (vs : List Value) :
    Json.allPlain (vs.map signatureJson) = true := by
  induction vs with
  | nil => rfl
  | cons v vs ih => simp [Json.allPlain, isPlain_signatureJson, ih]

theorem tagged_injective {type type' : String} {content content' : Json}
    (same : tagged type content = tagged type' content') :
    type = type' ∧ content = content' := by
  simpa [tagged] using same

theorem int_injective {m n : Int} (same : Json.int m = Json.int n) : m = n := by
  simp only [Json.int, Numeral.ofInt, Json.number.injEq, Numeral.mk.injEq,
    decide_eq_decide] at same
  omega

theorem signatureJson_injective {v w : Value} (same : signatureJson v = signatureJson w) :
    v = w := by
  cases v with
  | null =>
    cases w <;> first | rfl | simp [signatureJson, toJson, taggedNull, tagged] at same
  | bool b =>
    cases w with
    | bool c => exact congrArg bool (Json.bool.inj (tagged_injective same).2)
    | _ => simp [signatureJson, toJson, taggedNull, tagged, typeName, scalarType,
        ScalarType.name] at same
  | int n =>
    cases w with
    | int m => exact congrArg int (Int64.toInt_inj.1 (int_injective (tagged_injective same).2))
    | _ => simp [signatureJson, toJson, taggedNull, tagged, typeName, scalarType,
        ScalarType.name] at same
  | float x =>
    cases w with
    | float y =>
      have bits := Int.ofNat_inj.1 (int_injective (tagged_injective same).2)
      rw [show x = y from congrArg Double.mk (UInt64.toNat_inj.1 bits)]
    | _ => simp [signatureJson, toJson, taggedNull, tagged, typeName, scalarType,
        ScalarType.name] at same
  | text s =>
    cases w with
    | text t => exact congrArg text (Json.text.inj (tagged_injective same).2)
    | _ => simp [signatureJson, toJson, taggedNull, tagged, typeName, scalarType,
        ScalarType.name] at same

/-- A signature is read back as the list of the documents of its values. -/
theorem read?_signature (vs : List Value) :
    Json.read? (signature vs) = some (.array (vs.map signatureJson)) :=
  Json.read?_print (allPlain_signatureJson vs)

/-- **Signatures tell lists of values apart.** -/
theorem signature_injective {vs ws : List Value} (same : signature vs = signature ws) :
    vs = ws := by
  have documents := read?_signature vs
  rw [same, read?_signature ws] at documents
  exact (List.map_inj_right fun _ _ => signatureJson_injective).1
    (Json.array.inj (Option.some.inj documents)).symm

/-! ## What a signature tells -/

/-- Two values agree if they are of one type and the same in it.  Floats are by their bits,
so that the two zeros differ and so do two NaNs with different bits; an integer agrees with
no float and with no text. -/
def Agree : Value → Value → Prop
  | .null, .null => True
  | .bool a, .bool b => a = b
  | .int m, .int n => m = n
  | .float x, .float y => x.bits = y.bits
  | .text s, .text t => s = t
  | _, _ => False

theorem agree_iff {v w : Value} : v.Agree w ↔ v = w := by
  cases v with
  | float x =>
    cases w with
    | float y =>
      rw [Agree, float.injEq]
      exact ⟨congrArg Double.mk, congrArg Double.bits⟩
    | _ => simp [Agree]
  | _ => cases w <;> simp [Agree]

/-- **A signature tells** how many values there are and each of them, and nothing else. -/
theorem signature_eq_iff (vs ws : List Value) :
    signature vs = signature ws ↔
      vs.length = ws.length ∧
        ∀ i (h : i < vs.length) (h' : i < ws.length), vs[i].Agree ws[i] := by
  simp only [agree_iff]
  rw [← List.ext_getElem_iff]
  exact ⟨signature_injective, congrArg signature⟩

end RowScope.Value
