import RowScope.Proofs.Conjunction
import RowScope.Proofs.Host

/-!
# Look-up by key

A look-up is a query for the rows with a key, of which the first one is the answer.  The
filters are part of that query, so a row that they hide does not stand in the way of a
later one.

* `Definition.Passes`: a row passes a filter if the template holds on it after the values
  were put in the place of the parameters.  Without a context these values are those of
  the session (`Interception.passes_iff`).
* `Engine.Reveals`: a row of the entity type with the key that passes every filter.  The
  filters of an interception say the same of a row (`Sound.selects_byKey_iff`).
* `Engine.answerFor_eq_error_iff`: a query without parameters fails with the error of the
  interception, whatever it asks for.
* `Host.Reachable.find_exact` puts these together.
-/

namespace RowScope

/-! ## One filter -/

/-- A row passes a filter with some values if the template that has these values in the
place of its parameters holds on it. -/
def Definition.Passes (d : Definition) (values : Dict Value) (row : Row) : Prop :=
  ∃ bound ∈ (d.template.expr.bind d.name values).toOption, bound.Holds (fun _ => .null) row

instance (d : Definition) (values : Dict Value) (row : Row) : Decidable (d.Passes values row) :=
  inferInstanceAs (Decidable (∃ bound ∈ Except.toOption _, _))

namespace Interception

variable {catalog : Catalog} {d : Definition} {explicit : Dict Value}

/-- Without a context there are the values of the session alone. -/
theorem supplied?_empty (explicit : Dict Value) (p : Parameter) :
    supplied? explicit .empty p = explicit.get? p.name := by
  unfold supplied? contextValue?
  cases explicit.get? p.name with
  | some v => rfl
  | none => cases p.contextKey <;> rfl

/-- A template is read with the values of the session then. -/
theorem environment_empty (resolved : d.Resolved catalog) {name : String}
    (referred : name ∈ d.template.expr.paramOccurrences) :
    environment explicit .empty d name = Expr.environment explicit name := by
  obtain ⟨p, declared, rfl⟩ := resolved.declared name referred
  unfold environment Expr.environment
  rw [resolved.parameter?_eq_some_iff.2 ⟨declared, rfl⟩, Option.bind_some, supplied?_empty]

/-- A row passes a filter whose parameters the session supplies exactly if the template
holds with these values. -/
theorem passes_iff (resolved : d.Resolved catalog)
    (supplied : ∀ p ∈ d.parameters, (supplied? explicit .empty p).isSome = true) (row : Row) :
    d.Passes explicit row ↔ d.template.expr.Holds (environment explicit .empty d) row := by
  have given : ∀ name ∈ d.template.expr.paramOccurrences, explicit.contains name = true := by
    intro name referred
    obtain ⟨p, declared, rfl⟩ := resolved.declared name referred
    have value := supplied p declared
    rwa [supplied?_empty] at value
  have read : d.template.expr.value (environment explicit .empty d) row =
      d.template.expr.value (Expr.environment explicit) row :=
    Expr.value_congr row _ fun name referred => environment_empty resolved referred
  obtain ⟨p, bound⟩ := Expr.exists_bind d.name d.template.expr given
  have substituted := Expr.value_of_bind (fun _ => .null) row d.template.expr bound
  unfold Definition.Passes Expr.Holds
  rw [bound, read, ← substituted]
  simp [Except.toOption]

end Interception

/-! ## Queries of an engine -/

/-- The query for a key has no parameters. -/
theorem Query.paramOccurrences_byKey (entity keyField : String) (key : Value) :
    ∀ p ∈ (Query.byKey entity keyField key).predicate, p.paramOccurrences = [] := by
  intro p given
  cases given
  rfl

namespace Engine

/-- A row passes every filter on an entity type that is on in a session. -/
def Passes (e : Engine) (s : Session) (entity : String) (row : Row) : Prop :=
  ∀ d ∈ e.registry.definitions, d.entity = entity → s.isEnabled d.name = true →
    d.Passes (s.state d.name).values row

instance (e : Engine) (s : Session) (entity : String) (row : Row) :
    Decidable (e.Passes s entity row) :=
  inferInstanceAs (Decidable (∀ d ∈ _, _))

/-- A row is of an entity type, has a key that equals a value, and passes the filters. -/
def Reveals (e : Engine) (s : Session) (entity keyField : String) (key : Value) (row : Row) :
    Prop :=
  row.entity = entity ∧ Comparison.eq.apply (row.read keyField) key = true ∧
    e.Passes s entity row

instance (e : Engine) (s : Session) (entity keyField : String) (key : Value) (row : Row) :
    Decidable (e.Reveals s entity keyField key row) :=
  inferInstanceAs (Decidable (_ ∧ _ ∧ _))

variable {e : Engine} {s : Session} {q : Query} {context : Context} {rows : List Row}
  {filters : List Predicate}

section Free

variable (free : ∀ p ∈ q.predicate, p.paramOccurrences = [])

include free

theorem answerFor_of_filtersFor (made : e.filtersFor s q.entity context = .ok filters)
    (rows : List Row) :
    answerFor (fun q => q.execute rows) e s q context =
      .ok (rows.filter fun row => ({ q with filters } : Query).Selects row) := by
  have executed : ({ q with filters } : Query).execute rows =
      .ok (rows.filter fun row => ({ q with filters } : Query).Selects row) :=
    Query.execute_eq_ok_iff.2 ⟨free, rfl⟩
  rw [answerFor, made]
  exact executed

/-- Such a query fails with the error of the interception. -/
theorem answerFor_eq_error_iff {error : FilterError} :
    answerFor (fun q => q.execute rows) e s q context = .error error ↔
      e.filtersFor s q.entity context = .error error := by
  cases made : e.filtersFor s q.entity context with
  | error refusal =>
    have answered : answerFor (fun q => q.execute rows) e s q context = .error refusal := by
      rw [answerFor, made]
      rfl
    rw [answered]
    simp
  | ok filters => simp [answerFor_of_filtersFor free made rows]

end Free

theorem exists_filtersFor {answer : List Row}
    (answered : answerFor (fun q => q.execute rows) e s q context = .ok answer) :
    ∃ filters, e.filtersFor s q.entity context = .ok filters := by
  obtain ⟨filters, made, -⟩ := bind_eq_ok_iff.1 answered
  exact ⟨filters, made⟩

/-- The predicates of an interception without a context match the rows that pass the
filters. -/
theorem Sound.forall_holds_iff (sound : e.Sound) {entity : String}
    (made : e.filtersFor s entity .empty = .ok filters) (row : Row) :
    (∀ f ∈ filters, f.holds row = true) ↔ e.Passes s entity row := by
  obtain ⟨ds, records, -⟩ := sound
  unfold filtersFor at made
  split at made
  · cases made
  · obtain ⟨ps, predicates, rfl⟩ := map_eq_ok_iff.1 made
    have supplied := (Interception.exists_predicates_iff records).1 ⟨ps, predicates⟩
    have passes : ∀ d ∈ e.registry.definitions, d.entity = entity → s.isEnabled d.name = true →
        (d.Passes (s.state d.name).values row ↔ d.template.expr.Holds
          (Interception.environment (s.state d.name).values .empty d) row) := by
      intro d registered onEntity on
      have resolved := records.resolved d (records.mem_definitions.1 registered)
      exact Interception.passes_iff resolved (supplied d registered onEntity on) row
    rw [List.forall_mem_map, Interception.forall_holds_iff records predicates row]
    constructor
    · intro holds d registered onEntity on
      exact (passes d registered onEntity on).2 (holds d registered onEntity on)
    · intro passed d registered onEntity on
      exact (passes d registered onEntity on).1 (passed d registered onEntity on)

/-- The query for a key selects the rows that are revealed. -/
theorem Sound.selects_byKey_iff (sound : e.Sound) {entity : String}
    (made : e.filtersFor s entity .empty = .ok filters) (keyField : String) (key : Value)
    (row : Row) :
    ({ Query.byKey entity keyField key with filters } : Query).Selects row ↔
      e.Reveals s entity keyField key row := by
  have equals : (Expr.compare .eq (.field keyField) (.literal key)).Holds (fun _ => .null) row ↔
      Comparison.eq.apply (row.read keyField) key = true := by
    simp [Expr.Holds, Expr.value]
  unfold Query.Selects Reveals
  rw [sound.forall_holds_iff made row, ← equals]
  simp [Query.byKey, Query.filter, Query.all, Expr.conjoin?]

/-- **A look-up that does not fail** gives the first row that is revealed. -/
theorem Sound.find_of_filtersFor (sound : e.Sound) {entity : String}
    (made : e.filtersFor s entity .empty = .ok filters) {schema : Schema}
    (mapped : e.registry.catalog.schema? entity = some schema) (key : Value) (rows : List Row) :
    (e.find rows s entity key).result.1 =
      .ok (rows.find? fun row => e.Reveals s entity schema.key key row) := by
  have free := Query.paramOccurrences_byKey entity schema.key key
  have answered := answerFor_of_filtersFor free made rows
  have found := sound.result_find rows s entity key
  rw [mapped] at found
  dsimp only at found
  rw [found, answered]
  simp only [sound.selects_byKey_iff made]
  exact congrArg Except.ok (List.head?_filter ..)

end Engine

/-! ## Hosts -/

/-- **A look-up by key never reveals a row that a filter hides.**  After any commands, for
any session, entity type, key and rows:

* without a schema of the entity type the look-up fails, and this is an error of
  interception;
* otherwise it fails with an error exactly if a query for the type that has no context
  and no parameters of its own does;
* otherwise a row is found exactly if it is the first one that has the key and passes
  every filter on the type that is on, and none is found exactly if there is no such row. -/
theorem Host.Reachable.find_exact {h : Host} (reachable : h.Reachable) {handle : Nat}
    {e : Engine} (found : h.engine? handle = some e) (s : Session) (entity : String)
    (key : Value) (rows : List Row) :
    (e.registry.catalog.schema? entity = none →
      (e.find rows s entity key).result.1 =
        .error (.intercept s!"entity type '{entity}' is not mapped")) ∧
    ∀ schema, e.registry.catalog.schema? entity = some schema →
      (∀ q : Query, q.entity = entity → (∀ p ∈ q.predicate, p.paramOccurrences = []) →
        ∀ error, (e.find rows s entity key).result.1 = .error error ↔
          (e.execute rows s q .empty).result.1 = .error error) ∧
      ∀ visible, (e.execute rows s (.all entity) .empty).result.1 = .ok visible →
        (∀ row, (e.find rows s entity key).result.1 = .ok (some row) ↔
          ∃ before after, rows = before ++ row :: after ∧
            e.Reveals s entity schema.key key row ∧
            ∀ earlier ∈ before, ¬ e.Reveals s entity schema.key key earlier) ∧
        ((e.find rows s entity key).result.1 = .ok none ↔
          ∀ row ∈ rows, ¬ e.Reveals s entity schema.key key row) := by
  have wellFormed := reachable.wellFormed
  have sound := wellFormed.sound e.id e (wellFormed.engines_of_engine? found)
  have looked := sound.result_find rows s entity key
  refine ⟨fun unmapped => ?_, fun schema mapped => ⟨fun q onEntity free error => ?_,
    fun visible answered => ?_⟩⟩
  · rw [looked, unmapped]
  · subst onEntity
    have free' := Query.paramOccurrences_byKey q.entity schema.key key
    have executed := sound.result_executeWith (fun q => q.execute rows) s q .empty
    rw [looked, mapped, Engine.execute, executed]
    dsimp only
    rw [map_eq_error_iff, Engine.answerFor_eq_error_iff free',
      Engine.answerFor_eq_error_iff free]
    rfl
  · have executed := sound.result_executeWith (fun q => q.execute rows) s (.all entity) .empty
    rw [Engine.execute, executed] at answered
    obtain ⟨filters, made⟩ : ∃ filters, e.filtersFor s entity .empty = .ok filters :=
      Engine.exists_filtersFor answered
    rw [sound.find_of_filtersFor made mapped key rows]
    refine ⟨fun row => ?_, ?_⟩
    · rw [Except.ok.injEq, List.find?_eq_some_iff_append]
      simp only [decide_eq_true_iff, Bool.not_eq_true', decide_eq_false_iff_not]
      constructor
      · rintro ⟨revealed, before, after, split, hidden⟩
        exact ⟨before, after, split, revealed, hidden⟩
      · rintro ⟨before, after, split, revealed, hidden⟩
        exact ⟨revealed, before, after, split, hidden⟩
    · rw [Except.ok.injEq, List.find?_eq_none]
      simp

/-! A post of the second tenant has the key that is asked for, and so has a comment.  The
post that is found comes after both, and its key is a float. -/

/-- Rows with the key one or without a key. -/
def Host.keyedRows : List Row :=
  [⟨"Post", .ofList [("id", .int 1), ("tenant", .int 2)]⟩,
    ⟨"Comment", .ofList [("id", .int 1), ("tenant", .int 1)]⟩,
    ⟨"Post", .ofList [("id", .float (.ofInt 1)), ("tenant", .int 1)]⟩,
    ⟨"Post", .ofList [("id", .int 1), ("tenant", .int 1)]⟩,
    ⟨"Post", .ofList [("tenant", .int 1)]⟩]

theorem Host.Reachable.find_exact_keyed :
    blog.engine? 0 = some blogEngine ∧
      (blogEngine.find keyedRows blogSession "Post" (.int 1)).result.1 =
        .ok keyedRows[2]? ∧
      (blogEngine.find keyedRows blogSession "Post" .null).result.1 = .ok keyedRows[4]? ∧
      (blogEngine.find keyedRows blogSession "Post" (.text "1")).result.1 = .ok none := by
  have found : blog.engine? 0 = some blogEngine := (Option.some_get _).symm
  obtain ⟨schema, mapped, keyField⟩ :
      ∃ schema, blogEngine.registry.catalog.schema? "Post" = some schema ∧ schema.key = "id" :=
    ⟨_, rfl, rfl⟩
  obtain ⟨visible, answered⟩ : ∃ visible,
      (blogEngine.execute keyedRows blogSession (.all "Post") .empty).result.1 = .ok visible :=
    ⟨_, rfl⟩
  have exactly := fun key =>
    ((reachable_blog.find_exact found blogSession "Post" key keyedRows).2 schema mapped).2
      visible answered
  rw [keyField] at exactly
  refine ⟨found, ?_, ?_, ?_⟩
  · exact ((exactly (.int 1)).1 keyedRows[2]).2
      ⟨keyedRows.take 2, keyedRows.drop 3, rfl, by decide +kernel, by decide⟩
  · exact ((exactly .null).1 keyedRows[4]).2
      ⟨keyedRows.take 4, [], rfl, by decide, by decide⟩
  · exact (exactly (.text "1")).2.2 (by decide)

end RowScope
