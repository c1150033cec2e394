import RowScope.Proofs.Admission
import RowScope.Proofs.Convention
import RowScope.Proofs.Typing

/-!
# When a convention succeeds

A convention registers its template on one entity type after the other, each time in a
registry that the registrations before have changed.  That makes no difference: its own
definitions never stand in each other's way.

* `Catalog.Carries` says which entity types a template is meant for, and
  `Registry.mem_carriers_iff` that a convention finds these.
* `Registry.Records.examine_later_iff`: what a registry admits, it admits after more
  definitions exactly if the new one coexists with each of them.
* `Definition.coexists_of_sibling`: definitions of one convention on two entity types do.
* `Registry.Files.alone` and `Registry.Files.admits_next` are the two directions:
  what a convention has filed could have been registered alone, and what could be
  registered alone is not refused later.
* `Registry.exists_registerConvention_iff` says when a convention succeeds, and
  `Registry.Spreads` what it does then (`Files.spreads`).
* `Registry.Reachable.convention_exact` puts them together.
-/

namespace RowScope

/-! ## Carriers -/

namespace Expr

variable {name : String}

mutual

/-- The fields that are met are those that stand somewhere inside. -/
theorem mem_fieldOccurrences_iff : ∀ e : Expr,
    name ∈ e.fieldOccurrences ↔ (Expr.field name).Part e
  | .field other => by
    rw [fieldOccurrences, List.mem_singleton]
    constructor
    · rintro rfl
      exact .whole
    · rintro ⟨⟩
      rfl
  | .param _ => iff_of_false List.not_mem_nil fun part => by cases part
  | .literal _ => iff_of_false List.not_mem_nil fun part => by cases part
  | .compare _ l r => by
    rw [fieldOccurrences, List.mem_append, mem_fieldOccurrences_iff l,
      mem_fieldOccurrences_iff r]
    constructor
    · rintro (left | right)
      · exact .left left
      · exact .right right
    · rintro (_ | left | right)
      · exact .inl left
      · exact .inr right
  | .conj es => by
    rw [fieldOccurrences, mem_fieldOccurrencesAll_iff es]
    constructor
    · rintro ⟨e, member, part⟩
      exact .conj member part
    · rintro (_ | _ | _ | ⟨member, part⟩)
      exact ⟨_, member, part⟩
  | .disj es => by
    rw [fieldOccurrences, mem_fieldOccurrencesAll_iff es]
    constructor
    · rintro ⟨e, member, part⟩
      exact .disj member part
    · rintro (_ | _ | _ | _ | ⟨member, part⟩)
      exact ⟨_, member, part⟩
  | .neg e => by
    rw [fieldOccurrences, mem_fieldOccurrences_iff e]
    constructor
    · exact .neg
    · rintro (_ | _ | _ | _ | _ | part)
      exact part

theorem mem_fieldOccurrencesAll_iff : ∀ es : List Expr,
    name ∈ fieldOccurrencesAll es ↔ ∃ e ∈ es, (Expr.field name).Part e
  | [] => by simp [fieldOccurrencesAll]
  | e :: es => by
    rw [fieldOccurrencesAll, List.mem_append, mem_fieldOccurrences_iff e,
      mem_fieldOccurrencesAll_iff es, List.exists_mem_cons_iff]

end

theorem mem_fields_iff {e : Expr} : name ∈ e.fields ↔ (Expr.field name).Part e := by
  rw [fields, List.mem_eraseDups, mem_fieldOccurrences_iff]

end Expr

/-- An entity type has a schema, and this has every field that stands in a template. -/
def Catalog.Carries (c : Catalog) (template : Expr) (entity : String) : Prop :=
  ∃ schema, c.schema? entity = some schema ∧
    ∀ name, (Expr.field name).Part template → ∃ f ∈ schema.fields, f.name = name

theorem Schema.isSome_field?_iff {schema : Schema} {name : String} :
    (schema.field? name).isSome = true ↔ ∃ f ∈ schema.fields, f.name = name := by
  rw [field?, List.find?_isSome]
  simp

namespace Registry

variable {r r' : Registry} {name : String} {params : List Parameter} {template : Expr}
  {ds more : List Definition} {d : Definition} {x : Registration}

theorem mem_carriers_iff {entity : String} :
    entity ∈ r.carriers template ↔
      entity ∈ r.catalog.listed ∧ r.catalog.Carries template entity := by
  rw [carriers, List.mem_filter]
  refine and_congr_right fun _ => ?_
  rw [Catalog.Carries]
  cases r.catalog.schema? entity with
  | none => simp
  | some schema =>
    simp only [List.all_eq_true, Schema.isSome_field?_iff, Expr.mem_fields_iff,
      Option.some.injEq, exists_eq_left']

theorem sublist_carriers (r : Registry) (template : Expr) :
    (r.carriers template).Sublist r.catalog.listed := List.filter_sublist

/-! ## Admission after more definitions -/

/-- **Admitted later** is what is admitted now and coexists with what comes between. -/
theorem Records.examine_later_iff (records : r.Records ds) (records' : r'.Records (ds ++ more))
    (catalog : r'.catalog = r.catalog) (inactive : r.active = false)
    (inactive' : r'.active = false) :
    r'.examine x.entity x.name x.params x.template =
        .ok { d with ordinal := r'.nextOrdinal } ↔
      r.examine x.entity x.name x.params x.template =
          .ok { d with ordinal := r.nextOrdinal } ∧ ∀ d' ∈ more, d.Coexists d' := by
  rw [records.examine_eq_ok_iff inactive, records'.examine_eq_ok_iff inactive', catalog,
    List.forall_mem_append]
  constructor
  · rintro ⟨made, -, before, between⟩
    exact ⟨⟨made, rfl, before⟩, between⟩
  · rintro ⟨⟨made, -, before⟩, between⟩
    exact ⟨made, rfl, before, between⟩

end Registry

/-- Definitions of the same parameters on two entity types coexist. -/
theorem Definition.coexists_of_sibling {d d' : Definition} (apart : d.entity ≠ d'.entity)
    (same : d'.parameters = d.parameters) (distinct : (d.parameters.map Parameter.name).Nodup) :
    d.Coexists d' := by
  refine ⟨fun together => (apart together).elim, ?_⟩
  intro _ p declared p' declared' sameName
  rw [same] at declared'
  rw [List.inj_on_of_nodup_map distinct declared declared' sameName]

namespace Registry

variable {r r' : Registry} {name : String} {params : List Parameter} {template : Expr}
  {old ds : List Definition} {d : Definition}

/-! ## What a convention has filed -/

theorem Files.records (files : Files name params template r ds r') (records : r.Records old) :
    r'.Records (old ++ ds) := by
  induction files generalizing old with
  | nothing r => rwa [List.append_nil]
  | @more r r' d ds examined _ ih =>
    have recorded := ih (records.add_of_examine examined)
    rwa [List.append_assoc] at recorded

/-- Each definition was examined by the registry that those before it have left. -/
theorem Files.exists_examined (files : Files name params template r ds r') :
    ∀ d ∈ ds, ∃ front middle, Files name params template r front middle ∧
      middle.examine d.entity name params template = .ok d := by
  induction files with
  | nothing r => intro d member; cases member
  | @more r r' d ds examined _ ih =>
    refine List.forall_mem_cons.2 ⟨⟨[], r, .nothing r, examined⟩, fun d' later => ?_⟩
    obtain ⟨front, middle, files, examined'⟩ := ih d' later
    exact ⟨d :: front, middle, .more examined files, examined'⟩

/-- What was filed could have been registered alone. -/
theorem Files.alone (files : Files name params template r ds r') (records : r.Records old) :
    ∀ d ∈ ds, ∃ alone, r.examine d.entity name params template = .ok alone ∧
      alone.unnumbered = d.unnumbered := by
  intro d member
  obtain ⟨front, middle, before, examined⟩ := files.exists_examined d member
  obtain ⟨inactive, -, -, -, -, -, ordinal, -⟩ := of_examine examined
  have renumbered : d = { d with ordinal := middle.nextOrdinal } := by rw [← ordinal]
  rw [renumbered] at examined
  have earlier := (records.examine_later_iff (x := ⟨d.entity, name, params, template⟩)
    (before.records records) before.gains.catalog (before.gains.active.symm.trans inactive)
    inactive).1 examined
  exact ⟨_, earlier.1, rfl⟩

/-- What could be registered alone is not refused after other entity types. -/
theorem Files.admits_next (files : Files name params template r ds r')
    (records : r.Records old) {next : String} (apart : next ∉ ds.map Definition.entity)
    (examined : r.examine next name params template = .ok d) :
    r'.examine next name params template = .ok { d with ordinal := r'.nextOrdinal } := by
  obtain ⟨inactive, -, rfl, -, parameters, -, ordinal, resolved, -⟩ := of_examine examined
  have renumbered : d = { d with ordinal := r.nextOrdinal } := by rw [← ordinal]
  rw [renumbered] at examined
  refine (records.examine_later_iff (x := ⟨d.entity, name, params, template⟩)
    (files.records records) files.gains.catalog inactive
    (files.gains.active.trans inactive)).2 ⟨examined, fun d' member => ?_⟩
  have differs : d.entity ≠ d'.entity := fun same =>
    apart (same ▸ List.mem_map_of_mem member)
  have sibling := (files.made d' member).2.1
  exact Definition.coexists_of_sibling differs (sibling.trans parameters.symm) resolved.distinct

/-! ## The outcome -/

/-- A registration alone succeeds if its examination does. -/
theorem exists_registered_iff {entity : String} :
    (∃ d, (r.register entity name params template).result.1 = .ok d) ↔
      ∃ d, r.examine entity name params template = .ok d := by
  cases examined : r.examine entity name params template with
  | error e => rw [register_eq_of_error examined]
  | ok d => rw [register_eq_of_ok examined]

/-- A convention succeeds if each of its carriers is admitted on its own. -/
theorem exists_registerConvention_iff (records : r.Records old)
    (distinct : r.catalog.listed.Nodup) (some : r.carriers template ≠ []) :
    (∃ entities r', (r.registerConvention name params template).result = (.ok entities, r')) ↔
      ∀ entity ∈ r.carriers template, ∃ d, r.examine entity name params template = .ok d := by
  obtain ⟨ds, last, files, ⟨answered, all⟩ | ⟨e, refused, rest, answered, split, examined⟩⟩ :=
    files_registerConvention name params some
  · refine iff_of_true ⟨_, _, answered⟩ fun entity carrier => ?_
    rw [← all] at carrier
    obtain ⟨d, member, rfl⟩ := List.mem_map.1 carrier
    obtain ⟨alone, admitted, -⟩ := files.alone records d member
    exact ⟨alone, admitted⟩
  · -- the one that is refused is none of those before it
    refine iff_of_false (by simp [answered]) fun each => ?_
    have carriers := distinct.sublist (r.sublist_carriers template)
    rw [split] at carriers each
    obtain ⟨d, admitted⟩ := each refused (List.mem_append_right _ List.mem_cons_self)
    have apart : refused ∉ ds.map Definition.entity := fun earlier =>
      (List.nodup_append.1 carriers).2.2 refused earlier refused List.mem_cons_self rfl
    rw [files.admits_next records apart admitted] at examined
    cases examined

/-- A convention that succeeds has filed a definition for each carrier. -/
theorem files_of_convention_succeeded {entities : List String}
    (succeeded : (r.registerConvention name params template).result = (.ok entities, r')) :
    r.carriers template ≠ [] ∧ entities = r.carriers template ∧
      ∃ ds, Files name params template r ds r' ∧ ds.map Definition.entity = entities := by
  by_cases none : r.carriers template = []
  · rw [registerConvention_of_no_carrier none] at succeeded
    cases succeeded
  obtain ⟨ds, last, files, ⟨answered, all⟩ | ⟨e, refused, rest, answered, -, -⟩⟩ :=
    files_registerConvention name params none
  · rw [answered] at succeeded
    cases succeeded
    exact ⟨none, rfl, ds, files, all⟩
  · rw [answered] at succeeded
    cases succeeded

/-- What a convention that succeeds does.  The registry gains definitions with consecutive
ordinals, each the one that would have been registered alone, and the name if it is new. -/
structure Spreads (r : Registry) (name : String) (params : List Parameter) (template : Expr)
    (ds : List Definition) (r' : Registry) : Prop extends Gains r name ds r' where
  asAlone : ∀ d ∈ ds, ∃ alone,
    (r.register d.entity name params template).result.1 = .ok alone ∧
      alone.unnumbered = d.unnumbered
  numbered : r.nextOrdinal = r.size
  size : r'.size = r.size + ds.length
  stillNumbered : r'.nextOrdinal = r'.size
  names : ∀ other, other ∈ r'.filterNames ↔ other ∈ r.filterNames ∨ other = name

theorem Files.spreads (files : Files name params template r ds r') (reachable : r.Reachable)
    (something : ds ≠ []) : r.Spreads name params template ds r' := by
  obtain ⟨old, records⟩ := reachable.exists_records
  have indexed := reachable.indexed
  have indexed' := (files.reachable reachable).indexed
  have gains := files.gains
  refine ⟨gains, fun d member => ?_, indexed.complete, ?_, indexed'.complete, fun other => ?_⟩
  · obtain ⟨alone, admitted, same⟩ := files.alone records d member
    exact ⟨alone, by rw [register_eq_of_ok admitted], same⟩
  · rw [← indexed.complete, ← indexed'.complete]
    exact gains.next
  · rw [gains.mem_filterNames indexed indexed', and_iff_left something]

/-- **What comes of a convention.**  It is meant for the listed entity types whose schema
has every field of the template.  Without any it fails and changes nothing.  Otherwise it
succeeds exactly if each of them alone could be registered in the registry as it is.  Then
it names them, and the registry gains one definition for each, in their order, and nothing
else. -/
theorem Reachable.convention_exact (reachable : r.Reachable)
    (distinct : r.catalog.listed.Nodup) (name : String) (params : List Parameter)
    (template : Expr) :
    (r.carriers template).Sublist r.catalog.listed ∧
    (∀ entity, entity ∈ r.carriers template ↔
      entity ∈ r.catalog.listed ∧ r.catalog.Carries template entity) ∧
    (r.carriers template = [] → (r.registerConvention name params template).result =
      (.error (.invalidTemplate "*" name TemplateFault.noCarrier.reason), r)) ∧
    (r.carriers template ≠ [] →
      ((∃ entities r', (r.registerConvention name params template).result =
          (.ok entities, r')) ↔
        ∀ entity ∈ r.carriers template, ∃ d,
          (r.register entity name params template).result.1 = .ok d)) ∧
    ∀ entities r', (r.registerConvention name params template).result = (.ok entities, r') →
      entities = r.carriers template ∧ ∃ ds : List Definition,
        ds.map Definition.entity = entities ∧ r.Spreads name params template ds r' := by
  obtain ⟨old, records⟩ := reachable.exists_records
  refine ⟨r.sublist_carriers template, fun _ => mem_carriers_iff,
    registerConvention_of_no_carrier, fun some => ?_, fun entities r' succeeded => ?_⟩
  · simp only [exists_registered_iff]
    exact exists_registerConvention_iff records distinct some
  · obtain ⟨some, rfl, ds, files, all⟩ := files_of_convention_succeeded succeeded
    refine ⟨rfl, ds, all, files.spreads reachable ?_⟩
    rintro rfl
    exact some all.symm

/-! Posts and comments have a tenant, authors have none and drafts have no schema.  A filter
of the same name on authors takes its parameter for a number. -/

/-- A registry with a filter on authors. -/
def authored : Registry :=
  ((empty (.ofSchemas ["Draft"] [⟨"Post", "id", [⟨"id", .int⟩, ⟨"tenant", .int⟩]⟩,
    ⟨"Author", "id", [⟨"id", .int⟩]⟩,
    ⟨"Comment", "id", [⟨"tenant", .int⟩]⟩])).register "Author" "tenant" [⟨"id", .int, none⟩]
      (.compare .eq (.field "id") (.param "id"))).result.2

theorem Reachable.convention_exact_authored :
    authored.Reachable ∧ authored.catalog.listed.Nodup ∧
      (∃ r' ds, (authored.registerConvention "tenant" [⟨"id", .int, none⟩]
          (.compare .eq (.field "tenant") (.param "id"))).result = (.ok ["Post", "Comment"], r') ∧
        ds.map Definition.entity = ["Post", "Comment"] ∧ ds.map Definition.ordinal = [1, 2] ∧
        r'.named "tenant" = authored.named "tenant" ++ ds) ∧
      ¬ ∃ entities r', (authored.registerConvention "tenant" [⟨"id", .text, none⟩]
          (.compare .eq (.field "tenant") (.literal (.int 1)))).result = (.ok entities, r') := by
  have reachable : authored.Reachable := .register _ _ _ _ (.empty _)
  have distinct : authored.catalog.listed.Nodup := by decide
  obtain ⟨-, -, -, -, gained⟩ := reachable.convention_exact distinct "tenant"
    [⟨"id", .int, none⟩] (.compare .eq (.field "tenant") (.param "id"))
  obtain ⟨-, -, -, succeeds_iff, -⟩ := reachable.convention_exact distinct "tenant"
    [⟨"id", .text, none⟩] (.compare .eq (.field "tenant") (.literal (.int 1)))
  refine ⟨reachable, distinct, ?_, fun succeeds => ?_⟩
  · obtain ⟨-, ds, entities, spreads⟩ := gained ["Post", "Comment"] _ rfl
    have counted : ds.length = 2 := by
      rw [← List.length_map (f := Definition.entity), entities]
      rfl
    have ordinals := spreads.ordinals
    rw [counted] at ordinals
    exact ⟨_, ds, rfl, entities, ordinals, spreads.underName "tenant"⟩
  · obtain ⟨d, registered⟩ := (succeeds_iff (by decide)).1 succeeds "Post" (by decide)
    cases registered

end Registry

end RowScope
