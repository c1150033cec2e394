import RowScope.Proofs.Evaluation
import RowScope.Template
import Mathlib.Data.List.Nodup

/-!
# What a resolved template guarantees

`Template.resolve_eq_ok_iff` says when resolution succeeds and what it gives.

`Template.of_resolve`: the expression is kept as it is, the parameters have
distinct names, and the expression refers to declared parameters only.  The
second is what makes a list of declared values a dictionary, the third what makes
binding succeed once every declared parameter has a value.
-/

namespace RowScope.Template

variable {schema : Schema} {params : List Parameter}

/-! ## Declarations -/

theorem mem_of_declaration? {name : String} {p : Parameter}
    (declared : declaration? params name = some p) : p ∈ params ∧ p.name = name :=
  ⟨List.mem_of_find?_eq_some declared, by simpa using List.find?_some declared⟩

/-- Among distinct names the declaration of a name is the parameter that has it. -/
theorem declaration?_of_mem (distinct : (params.map Parameter.name).Nodup) {p : Parameter}
    (member : p ∈ params) : declaration? params p.name = some p := by
  induction params with
  | nil => cases member
  | cons q ps ih =>
    obtain ⟨absent, rest⟩ := List.nodup_cons.1 distinct
    rcases List.mem_cons.1 member with rfl | later
    · simp [declaration?]
    · have other : q.name ≠ p.name := fun same =>
        absent (same ▸ List.mem_map_of_mem later)
      simpa [declaration?, other] using ih rest later

/-- Behind some names no parameter is repeated exactly if the parameters have distinct
names and none of those. -/
theorem repeated?_eq_none_iff {seen : List String} :
    repeated? seen params = none ↔
      (params.map Parameter.name).Nodup ∧ ∀ p ∈ params, p.name ∉ seen := by
  induction params generalizing seen with
  | nil => simp [repeated?]
  | cons p ps ih =>
    rw [repeated?, List.map_cons, List.nodup_cons, List.forall_mem_cons]
    split
    · next repeated =>
      exact iff_of_false (by simp) fun ⟨_, unseen, _⟩ => unseen (by simpa using repeated)
    · next fresh =>
      have unseen : p.name ∉ seen := by simpa using fresh
      rw [ih]
      constructor
      · rintro ⟨distinct, apart⟩
        refine ⟨⟨fun member => ?_, distinct⟩, unseen, fun q later seenBefore => ?_⟩
        · obtain ⟨q, later, same⟩ := List.mem_map.1 member
          exact apart q later (same ▸ List.mem_cons_self)
        · exact apart q later (List.mem_cons_of_mem _ seenBefore)
      · rintro ⟨⟨absent, distinct⟩, -, apart⟩
        refine ⟨distinct, fun q later => ?_⟩
        rw [List.mem_cons, not_or]
        exact ⟨fun same => absent (same ▸ List.mem_map_of_mem later), apart q later⟩

/-! ## Parameters referred to -/

mutual

theorem declared_of_infer : ∀ (e : Expr) {u : Usage} {found : Option ScalarType × Usage},
    infer schema params u e = .ok found →
      ∀ name ∈ e.paramOccurrences, ∃ p, declaration? params name = some p
  | .field _, _, _, _, _, member => by cases member
  | .param name, u, found, typed, other, member => by
    obtain rfl : other = name := by simpa [Expr.paramOccurrences] using member
    rw [infer] at typed
    split at typed
    · next p declared => exact ⟨p, declared⟩
    · cases typed
  | .literal _, _, _, _, _, member => by cases member
  | .compare op l r, u, found, typed, name, member => by
    obtain ⟨foundLeft, left, typed⟩ := bind_eq_ok_iff.1 typed
    obtain ⟨foundRight, right, -⟩ := bind_eq_ok_iff.1 typed
    rcases List.mem_append.1 member with inLeft | inRight
    · exact declared_of_infer l left name inLeft
    · exact declared_of_infer r right name inRight
  | .conj es, u, found, typed, name, member => by
    obtain ⟨u', operands, -⟩ := bind_eq_ok_iff.1 typed
    exact declared_of_requireBools es operands name member
  | .disj es, u, found, typed, name, member => by
    obtain ⟨u', operands, -⟩ := bind_eq_ok_iff.1 typed
    exact declared_of_requireBools es operands name member
  | .neg e, u, found, typed, name, member => by
    obtain ⟨foundOperand, operand, -⟩ := bind_eq_ok_iff.1 typed
    exact declared_of_infer e operand name member

theorem declared_of_requireBools : ∀ (es : List Expr) {word : String} {u u' : Usage},
    requireBools schema params word u es = .ok u' →
      ∀ name ∈ Expr.paramOccurrencesAll es, ∃ p, declaration? params name = some p
  | [], _, _, _, _, _, member => by cases member
  | e :: es, word, u, u', typed, name, member => by
    obtain ⟨⟨type, u₁⟩, head, typed⟩ := bind_eq_ok_iff.1 typed
    rcases List.mem_append.1 member with inHead | inTail
    · exact declared_of_infer e head name inHead
    · dsimp only at typed
      split at typed
      · exact declared_of_requireBools es typed name inTail
      · cases typed

end

/-! ## Resolution -/

/-- Resolution succeeds if the parameters have distinct names and the check finds a truth
value, and gives the expression with what the check has met. -/
theorem resolve_eq_ok_iff {e : Expr} {t : Template} :
    resolve schema params e = .ok t ↔ (params.map Parameter.name).Nodup ∧ t.expr = e ∧
      infer schema params .empty e = .ok (some .bool, t.usage) := by
  have distinct_iff : repeated? [] params = none ↔ _ := repeated?_eq_none_iff
  rw [resolve]
  cases repeats : repeated? [] params with
  | some name =>
    refine iff_of_false (fun resolved => by cases resolved) ?_
    rintro ⟨distinct, -⟩
    rw [distinct_iff.2 ⟨distinct, fun _ _ => List.not_mem_nil⟩] at repeats
    cases repeats
  | none =>
    have distinct := (distinct_iff.1 repeats).1
    dsimp only
    rw [and_iff_right distinct, bind_eq_ok_iff]
    constructor
    · rintro ⟨⟨type, usage⟩, typed, resolved⟩
      dsimp only at resolved
      split at resolved
      · next isBool =>
        cases resolved
        exact ⟨rfl, isBool ▸ typed⟩
      · cases resolved
    · rintro ⟨rfl, typed⟩
      exact ⟨_, typed, rfl⟩

/-- What resolution guarantees of the template that it gives. -/
theorem of_resolve {e : Expr} {t : Template} (resolved : resolve schema params e = .ok t) :
    t.expr = e ∧ (params.map Parameter.name).Nodup ∧
      ∀ name ∈ e.paramOccurrences, ∃ p ∈ params, p.name = name := by
  obtain ⟨distinct, kept, typed⟩ := resolve_eq_ok_iff.1 resolved
  refine ⟨kept, distinct, fun name member => ?_⟩
  obtain ⟨p, declared⟩ := declared_of_infer e typed name member
  exact ⟨p, mem_of_declaration? declared⟩

end RowScope.Template
