import RowScope.Proofs.Typing

/-!
# Resolution accepts the well-typed templates

`Template.resolve_exact`: a template is resolved exactly if the parameters have distinct
names and the template is a truth value by the typing rules, and what is recorded of it is
what it refers to.

* `Usage.Lists`: the fields and parameters behind a list of references, each once.  Meeting
  one more reference keeps it (`Lists.addField`, `Lists.addParam`), and so does a check,
  which meets the references of its expression from left to right
  (`Template.lists_of_infer`).
-/

namespace RowScope

/-! ## What is met -/

/-- A name that comes after others is listed behind them unless it is one of them. -/
theorem eraseDups_concat (names : List String) (name : String) :
    (names ++ [name]).eraseDups =
      if name ∈ names then names.eraseDups else names.eraseDups ++ [name] := by
  rw [List.eraseDups_append]
  split
  · next met => simp [List.removeAll, met]
  · next new => simp [List.removeAll, new, List.eraseDups_cons]

/-- The field under a name has that name. -/
theorem Schema.name_of_field? {schema : Schema} {name : String} {f : Field}
    (declared : schema.field? name = some f) : f.name = name := by
  simpa using List.find?_some declared

namespace Usage

/-- A usage lists the fields and the parameters behind some references in the order in
which they are first met, and the fields as the schema has them. -/
structure Lists (schema : Schema) (u : Usage) (fieldRefs paramRefs : List String) :
    Prop where
  fields : u.fields.map Field.name = fieldRefs.eraseDups
  declared : ∀ f ∈ u.fields, schema.field? f.name = some f
  params : u.params = paramRefs.eraseDups

variable {schema : Schema} {u : Usage} {fieldRefs paramRefs : List String}

theorem lists_empty (schema : Schema) : empty.Lists schema [] [] where
  fields := rfl
  declared _ member := by cases member
  params := rfl

theorem Lists.mem_fields_iff (lists : u.Lists schema fieldRefs paramRefs) {name : String} :
    (u.fields.any fun g => g.name = name) = true ↔ name ∈ fieldRefs := by
  rw [← List.mem_eraseDups, ← lists.fields]
  simp

/-- Meeting a field of the schema. -/
theorem Lists.addField (lists : u.Lists schema fieldRefs paramRefs) {name : String}
    {f : Field} (declared : schema.field? name = some f) :
    (u.addField ⟨name, f.type⟩).Lists schema (fieldRefs ++ [name]) paramRefs := by
  obtain rfl := Schema.name_of_field? declared
  rw [Usage.addField]
  split
  · next met =>
    refine ⟨?_, lists.declared, lists.params⟩
    rw [eraseDups_concat, if_pos (lists.mem_fields_iff.1 met), lists.fields]
  · next new =>
    refine ⟨?_, ?_, lists.params⟩
    · rw [eraseDups_concat, if_neg (mt lists.mem_fields_iff.2 new), ← lists.fields,
        List.map_append, List.map_singleton]
    · intro g member
      rcases List.mem_append.1 member with before | last
      · exact lists.declared g before
      · rw [List.mem_singleton.1 last]
        exact declared

/-- Meeting a parameter. -/
theorem Lists.addParam (lists : u.Lists schema fieldRefs paramRefs) (name : String) :
    (u.addParam name).Lists schema fieldRefs (paramRefs ++ [name]) := by
  have met_iff : u.params.contains name = true ↔ name ∈ paramRefs := by
    rw [lists.params, List.contains_iff_mem, List.mem_eraseDups]
  rw [Usage.addParam]
  split
  · next met =>
    refine ⟨lists.fields, lists.declared, ?_⟩
    rw [eraseDups_concat, if_pos (met_iff.1 met), lists.params]
  · next new =>
    refine ⟨lists.fields, lists.declared, ?_⟩
    rw [eraseDups_concat, if_neg (mt met_iff.2 new), ← lists.params]

end Usage

namespace Template

variable {schema : Schema} {params : List Parameter}

mutual

/-- A check meets the references of its expression behind those met before. -/
theorem lists_of_infer : ∀ (e : Expr) {u : Usage} {found : Option ScalarType × Usage}
    {fieldRefs paramRefs : List String}, infer schema params u e = .ok found →
      u.Lists schema fieldRefs paramRefs →
        found.2.Lists schema (fieldRefs ++ e.fieldOccurrences) (paramRefs ++ e.paramOccurrences)
  | .field name, u, found, fieldRefs, paramRefs, typed, lists => by
    rw [infer] at typed
    split at typed
    · next f declared =>
      cases typed
      simpa [Expr.fieldOccurrences, Expr.paramOccurrences] using lists.addField declared
    · cases typed
  | .param name, u, found, fieldRefs, paramRefs, typed, lists => by
    rw [infer] at typed
    split at typed
    · cases typed
      simpa [Expr.fieldOccurrences, Expr.paramOccurrences] using lists.addParam name
    · cases typed
  | .literal v, u, found, fieldRefs, paramRefs, typed, lists => by
    cases typed
    simpa [Expr.fieldOccurrences, Expr.paramOccurrences] using lists
  | .compare op l r, u, found, fieldRefs, paramRefs, typed, lists => by
    obtain ⟨⟨left, u₁⟩, typedLeft, typed⟩ := bind_eq_ok_iff.1 typed
    obtain ⟨⟨right, u₂⟩, typedRight, typed⟩ := bind_eq_ok_iff.1 typed
    have met := lists_of_infer r typedRight (lists_of_infer l typedLeft lists)
    have last : found.2 = u₂ := by
      dsimp only at typed
      split at typed
      · split at typed
        · cases typed
          rfl
        · cases typed
      · cases typed
        rfl
    rw [last, Expr.fieldOccurrences, Expr.paramOccurrences, ← List.append_assoc,
      ← List.append_assoc]
    exact met
  | .conj es, u, found, fieldRefs, paramRefs, typed, lists => by
    obtain ⟨u₁, each, typed⟩ := bind_eq_ok_iff.1 typed
    cases typed
    exact lists_of_requireBools es each lists
  | .disj es, u, found, fieldRefs, paramRefs, typed, lists => by
    obtain ⟨u₁, each, typed⟩ := bind_eq_ok_iff.1 typed
    cases typed
    exact lists_of_requireBools es each lists
  | .neg e, u, found, fieldRefs, paramRefs, typed, lists => by
    obtain ⟨⟨type, u₁⟩, typedOperand, typed⟩ := bind_eq_ok_iff.1 typed
    have met := lists_of_infer e typedOperand lists
    dsimp only at typed
    split at typed
    · cases typed
      exact met
    · cases typed

theorem lists_of_requireBools : ∀ (es : List Expr) {word : String} {u u' : Usage}
    {fieldRefs paramRefs : List String}, requireBools schema params word u es = .ok u' →
      u.Lists schema fieldRefs paramRefs →
        u'.Lists schema (fieldRefs ++ Expr.fieldOccurrencesAll es)
          (paramRefs ++ Expr.paramOccurrencesAll es)
  | [], word, u, u', fieldRefs, paramRefs, typed, lists => by
    cases typed
    simpa [Expr.fieldOccurrencesAll, Expr.paramOccurrencesAll] using lists
  | e :: es, word, u, u', fieldRefs, paramRefs, typed, lists => by
    obtain ⟨⟨type, u₁⟩, typedHead, typed⟩ := bind_eq_ok_iff.1 typed
    have met := lists_of_infer e typedHead lists
    dsimp only at typed
    split at typed
    · rw [Expr.fieldOccurrencesAll, Expr.paramOccurrencesAll, ← List.append_assoc,
        ← List.append_assoc]
      exact lists_of_requireBools es typed met
    · cases typed

end

/-! ## Resolution -/

/-- **Resolution accepts exactly the well-typed templates** over parameters with distinct
names.  It keeps the template as it is, and records each field that the template refers to
as the schema has it, and each parameter, once and in the order of the first reference. -/
theorem resolve_exact (schema : Schema) (params : List Parameter) (e : Expr) :
    ((∃ t, resolve schema params e = .ok t) ↔
      (params.map Parameter.name).Nodup ∧ e.HasType schema params (some .bool)) ∧
    ∀ t, resolve schema params e = .ok t →
      t.expr = e ∧ t.usage.fields.map Field.name = e.fields ∧
        (∀ f ∈ t.usage.fields, schema.field? f.name = some f) ∧ t.usage.params = e.params := by
  constructor
  · constructor
    · rintro ⟨t, resolved⟩
      obtain ⟨distinct, -, typed⟩ := resolve_eq_ok_iff.1 resolved
      exact ⟨distinct, Expr.hasType_of_infer e typed⟩
    · rintro ⟨distinct, typed⟩
      obtain ⟨usage, found⟩ := typed.exists_infer .empty
      exact ⟨⟨e, usage⟩, resolve_eq_ok_iff.2 ⟨distinct, rfl, found⟩⟩
  · intro t resolved
    obtain ⟨-, kept, typed⟩ := resolve_eq_ok_iff.1 resolved
    have lists := lists_of_infer e typed (Usage.lists_empty schema)
    rw [List.nil_append, List.nil_append] at lists
    exact ⟨kept, lists.fields, lists.declared, lists.params⟩

/-! Of two fields with one name the first counts, and a field that is met again is not
recorded again. -/

example :
    (resolve ⟨"Post", "id", [⟨"id", .int⟩, ⟨"score", .float⟩, ⟨"id", .text⟩]⟩
      [⟨"least", .int, none⟩, ⟨"first", .int, none⟩]
      (.disj [.compare .ge (.field "score") (.param "first"),
        .neg (.compare .lt (.field "id") (.field "score"))])).map Template.usage =
      .ok ⟨[⟨"score", .float⟩, ⟨"id", .int⟩], ["first"]⟩ := rfl

end Template

end RowScope
