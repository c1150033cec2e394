import RowScope.Proofs.RegistryIndex

/-!
# What a failed convention leaves

A convention registers one template on entity type after entity type and stops at the
first refusal, without taking back what it has registered.

* `Registry.Files`: definitions come in one after the other, each examined by the
  registry that the ones before it have left.
* `files_registerEach`: a convention files definitions on a first part of its carriers,
  and fails exactly if one is refused after them, with the error of that one.
* `Files.gains` says what filing does to everything that can be read of a registry.
* `Registry.Reachable.convention_failed` puts them together: the registry is as it was
  exactly if the first carrier is the one that is refused.
-/

namespace RowScope.Registry

/-- Registrations of one template, each admitted by the registry that the ones before it
have left. -/
inductive Files (name : String) (params : List Parameter) (template : Expr) :
    Registry → List Definition → Registry → Prop
  | nothing (r : Registry) : Files name params template r [] r
  | more {r r' : Registry} {d : Definition} {ds : List Definition}
      (examined : r.examine d.entity name params template = .ok d) :
    Files name params template (r.add d) ds r' → Files name params template r (d :: ds) r'

/-- A registry with definitions of one name added at the ends of its lists, and nothing
else changed. -/
structure Gains (r : Registry) (name : String) (ds : List Definition) (r' : Registry) :
    Prop where
  onEntity : ∀ entity,
    r'.filtersFor entity = r.filtersFor entity ++ ds.filter fun d => d.entity = entity
  underName : ∀ other, r'.named other = r.named other ++ if other = name then ds else []
  ordinals : ds.map Definition.ordinal = List.range' r.nextOrdinal ds.length
  next : r'.nextOrdinal = r.nextOrdinal + ds.length
  active : r'.active = r.active
  catalog : r'.catalog = r.catalog

variable {r r' : Registry} {name : String} {params : List Parameter} {template : Expr}
  {entities : List String} {ds : List Definition} {d : Definition} {e : FilterError}

/-! ## One entity type after the other -/

theorem register_eq_of_ok {entity : String}
    (examined : r.examine entity name params template = .ok d) :
    (r.register entity name params template).result = (.ok d, r.add d) := by
  rw [register, examined]

theorem register_eq_of_error {entity : String}
    (examined : r.examine entity name params template = .error e) :
    (r.register entity name params template).result = (.error e, r) := by
  rw [register, examined]

/-- A registration fails with the error of its examination and changes nothing. -/
theorem register_eq_error_iff {entity : String} :
    (r.register entity name params template).result = (.error e, r') ↔
      r.examine entity name params template = .error e ∧ r' = r := by
  cases examined : r.examine entity name params template with
  | error e' => rw [register_eq_of_error examined, Prod.mk.injEq, eq_comm (a := r)]
  | ok d' => simp [register_eq_of_ok examined]

/-- A registration succeeds with the definition that was examined and adds it. -/
theorem register_eq_ok_iff {entity : String} :
    (r.register entity name params template).result = (.ok d, r') ↔
      r.examine entity name params template = .ok d ∧ r' = r.add d := by
  cases examined : r.examine entity name params template with
  | error e' => simp [register_eq_of_error examined]
  | ok d' =>
    rw [register_eq_of_ok examined, Prod.mk.injEq, eq_comm (a := r.add d')]
    refine and_congr_right fun same => ?_
    rw [Except.ok.inj same]

/-- **One after the other**, definitions are filed on a first part of some entity types.
That part is all of them, or the next one is refused with the error of the whole. -/
theorem files_registerEach (name : String) (params : List Parameter) (template : Expr)
    (entities : List String) (r : Registry) :
    ∃ ds r', Files name params template r ds r' ∧
      (((registerEach name params template entities r).result = (.ok (), r') ∧
          ds.map Definition.entity = entities) ∨
        ∃ e refused rest, (registerEach name params template entities r).result = (.error e, r') ∧
          entities = ds.map Definition.entity ++ refused :: rest ∧
          r'.examine refused name params template = .error e) := by
  induction entities generalizing r with
  | nil => exact ⟨[], r, .nothing r, .inl ⟨rfl, rfl⟩⟩
  | cons entity entities ih =>
    rw [registerEach, Logged.result_bind]
    cases examined : r.examine entity name params template with
    | error e =>
      rw [register_eq_of_error examined]
      exact ⟨[], r, .nothing r, .inr ⟨e, entity, entities, rfl, rfl, examined⟩⟩
    | ok d =>
      rw [register_eq_of_ok examined]
      have on : d.entity = entity := (of_examine examined).2.2.1
      obtain ⟨ds, r', files, outcome⟩ := ih (r.add d)
      refine ⟨d :: ds, r', .more (on ▸ examined) files, ?_⟩
      rw [List.map_cons, on]
      rcases outcome with ⟨answered, all⟩ | ⟨e, refused, rest, answered, split, error⟩
      · exact .inl ⟨answered, congrArg (entity :: ·) all⟩
      · exact .inr ⟨e, refused, rest, answered, congrArg (entity :: ·) split, error⟩

/-! ## What is gained -/

theorem gains_add (ordinal : d.ordinal = r.nextOrdinal) : r.Gains d.name [d] (r.add d) where
  onEntity entity := by
    unfold filtersFor
    rw [add, get?_file]
    by_cases same : d.entity = entity <;> simp [same]
  underName other := by
    unfold named
    rw [add, get?_file]
    by_cases same : d.name = other
    · simp [same]
    · simp [same, Ne.symm same]
  ordinals := by simp [ordinal]
  next := rfl
  active := rfl
  catalog := rfl

theorem Gains.trans {r₁ r₂ r₃ : Registry} {more : List Definition} (first : r₁.Gains name ds r₂)
    (second : r₂.Gains name more r₃) : r₁.Gains name (ds ++ more) r₃ where
  onEntity entity := by
    rw [second.onEntity, first.onEntity, List.filter_append, List.append_assoc]
  underName other := by
    rw [second.underName, first.underName, List.append_assoc]
    split
    · rfl
    · rfl
  ordinals := by
    rw [List.map_append, first.ordinals, second.ordinals, first.next, List.length_append,
      List.range'_append_1]
  next := by rw [second.next, first.next, List.length_append, Nat.add_assoc]
  active := second.active.trans first.active
  catalog := second.catalog.trans first.catalog

/-- What is filed is gained, in its order and with consecutive ordinals. -/
theorem Files.gains (files : Files name params template r ds r') : r.Gains name ds r' := by
  induction files with
  | nothing r =>
    exact ⟨fun _ => by simp, fun _ => by simp, rfl, rfl, rfl, rfl⟩
  | @more r r' d ds examined _ ih =>
    obtain ⟨-, -, -, rfl, -, -, ordinal, -⟩ := of_examine examined
    exact (gains_add ordinal).trans ih

theorem Files.made (files : Files name params template r ds r') :
    ∀ d ∈ ds, d.name = name ∧ d.parameters = params ∧ d.template.expr = template := by
  induction files with
  | nothing r => intro d member; cases member
  | @more r r' d ds examined _ ih =>
    obtain ⟨-, -, -, name, params, template, -⟩ := of_examine examined
    exact List.forall_mem_cons.2 ⟨⟨name, params, template⟩, ih⟩

theorem Files.reachable (files : Files name params template r ds r') (reachable : r.Reachable) :
    r'.Reachable := by
  induction files with
  | nothing r => exact reachable
  | @more r r' d ds examined _ ih =>
    have registered := reachable.register d.entity name params template
    rw [register_eq_of_ok examined] at registered
    exact ih registered

theorem Indexed.mem_filterNames_iff (indexed : r.Indexed) {other : String} :
    other ∈ r.filterNames ↔ r.named other ≠ [] := by
  rw [indexed.mem_filterNames]
  constructor
  · rintro ⟨d, member, underName⟩ nothing
    have filed := (indexed.underName other d).2 ⟨member, underName⟩
    rw [nothing] at filed
    cases filed
  · intro something
    obtain ⟨d, filed⟩ := List.exists_mem_of_ne_nil _ something
    exact ⟨d, (indexed.underName other d).1 filed⟩

/-- The names are those that there were, and the new one if anything was gained. -/
theorem Gains.mem_filterNames (gains : r.Gains name ds r') (indexed : r.Indexed)
    (indexed' : r'.Indexed) (other : String) :
    other ∈ r'.filterNames ↔ other ∈ r.filterNames ∨ other = name ∧ ds ≠ [] := by
  rw [indexed.mem_filterNames_iff, indexed'.mem_filterNames_iff, gains.underName,
    Ne, List.append_eq_nil_iff]
  by_cases same : other = name
  · rw [if_pos same]
    tauto
  · rw [if_neg same]
    tauto

/-- A registry that gains nothing by filing is the same one. -/
theorem Files.eq_iff (files : Files name params template r ds r') : r' = r ↔ ds = [] := by
  constructor
  · rintro rfl
    have counted := files.gains.next
    exact List.length_eq_zero_iff.1 (by omega)
  · rintro rfl
    cases files
    rfl

/-! ## Conventions -/

theorem registerConvention_of_no_carrier (none : r.carriers template = []) :
    (r.registerConvention name params template).result =
      (.error (.invalidTemplate "*" name TemplateFault.noCarrier.reason), r) := by
  rw [registerConvention, none]
  rfl

/-- A convention with carriers files definitions on a first part of them, which is all of
them or ends in front of one that is refused. -/
theorem files_registerConvention (name : String) (params : List Parameter)
    (some : r.carriers template ≠ []) :
    ∃ ds r', Files name params template r ds r' ∧
      (((r.registerConvention name params template).result = (.ok (r.carriers template), r') ∧
          ds.map Definition.entity = r.carriers template) ∨
        ∃ e refused rest,
          (r.registerConvention name params template).result = (.error e, r') ∧
          r.carriers template = ds.map Definition.entity ++ refused :: rest ∧
          r'.examine refused name params template = .error e) := by
  obtain ⟨ds, r', files, outcome⟩ :=
    files_registerEach name params template (r.carriers template) r
  rw [registerConvention, if_neg (by simpa using some), Logged.result_bind]
  refine ⟨ds, r', files, ?_⟩
  rcases outcome with ⟨answered, all⟩ | ⟨e, refused, rest, answered, split, examined⟩
  · rw [answered]
    exact .inl ⟨rfl, all⟩
  · rw [answered]
    exact .inr ⟨e, refused, rest, rfl, split, examined⟩

/-- A convention that fails has no carrier, or has filed definitions on those in front of
the one that is refused. -/
theorem files_of_convention_failed
    (failed : (r.registerConvention name params template).result = (.error e, r')) :
    ∃ ds, Files name params template r ds r' ∧
      ((r.carriers template = [] ∧ ds = [] ∧
          e = .invalidTemplate "*" name TemplateFault.noCarrier.reason) ∨
        ∃ refused rest, r.carriers template = ds.map Definition.entity ++ refused :: rest ∧
          r'.examine refused name params template = .error e) := by
  by_cases none : r.carriers template = []
  · rw [registerConvention_of_no_carrier none] at failed
    cases failed
    exact ⟨[], .nothing r, .inl ⟨none, rfl, rfl⟩⟩
  · obtain ⟨ds, last, files, ⟨answered, -⟩ | ⟨error, refused, rest, answered, split, examined⟩⟩ :=
      files_registerConvention name params none
    · rw [answered] at failed
      cases failed
    · rw [answered] at failed
      cases failed
      exact ⟨ds, files, .inr ⟨refused, rest, split, examined⟩⟩

/-- **A convention that fails** keeps the definitions that it has registered before the
entity type that is refused, at the ends of the lists and with consecutive ordinals, and
changes nothing else.  The error is that of registering the template on this entity type
alone.  So the registry is as it was exactly if the convention has no carrier or its first
carrier is refused as it stands. -/
theorem Reachable.convention_failed (reachable : r.Reachable)
    (failed : (r.registerConvention name params template).result = (.error e, r')) :
    ∃ kept : List Definition,
      ((r.carriers template = [] ∧ kept = [] ∧
          e = .invalidTemplate "*" name TemplateFault.noCarrier.reason) ∨
        ∃ refused rest, r.carriers template = kept.map Definition.entity ++ refused :: rest ∧
          r'.examine refused name params template = .error e) ∧
      (∀ d ∈ kept, d.name = name ∧ d.parameters = params ∧ d.template.expr = template) ∧
      kept.map Definition.ordinal = List.range' r.nextOrdinal kept.length ∧
      (∀ entity, r'.filtersFor entity =
        r.filtersFor entity ++ kept.filter fun d => d.entity = entity) ∧
      (∀ other, r'.named other = r.named other ++ if other = name then kept else []) ∧
      r'.size = r.size + kept.length ∧ r'.nextOrdinal = r.nextOrdinal + kept.length ∧
      (∀ other, other ∈ r'.filterNames ↔ other ∈ r.filterNames ∨ other = name ∧ kept ≠ []) ∧
      r'.active = r.active ∧ r'.catalog = r.catalog ∧
      (r' = r ↔ ∀ first ∈ (r.carriers template).head?,
        ∃ error, r.examine first name params template = .error error) := by
  obtain ⟨kept, files, outcome⟩ := files_of_convention_failed failed
  have indexed := reachable.indexed
  have indexed' := (files.reachable reachable).indexed
  have gains := files.gains
  refine ⟨kept, outcome, files.made, gains.ordinals, gains.onEntity, gains.underName, ?_,
    gains.next, gains.mem_filterNames indexed indexed', gains.active, gains.catalog, ?_⟩
  · rw [← indexed.complete, ← indexed'.complete]
    exact gains.next
  · rw [files.eq_iff]
    cases files with
    | nothing r =>
      refine iff_of_true rfl fun first head => ?_
      rcases outcome with ⟨none, -⟩ | ⟨refused, rest, split, examined⟩
      · rw [none] at head
        cases head
      · rw [split] at head
        cases head
        exact ⟨e, examined⟩
    | @more _ _ d ds examined _ =>
      refine iff_of_false (List.cons_ne_nil d ds) fun all => ?_
      rcases outcome with ⟨-, ⟨⟩, -⟩ | ⟨refused, rest, split, -⟩
      have head : d.entity ∈ (r.carriers template).head? := by
        rw [split]
        rfl
      obtain ⟨error, refusal⟩ := all d.entity head
      rw [examined] at refusal
      cases refusal

/-! The filter by tenant is there for comments, so a convention for all that has a tenant
stops after the posts. -/

/-- A registry with a filter on comments. -/
def commented : Registry :=
  ((empty .blog).register "Comment" "tenant" [⟨"id", .int, none⟩]
    (.compare .eq (.field "tenant") (.param "id"))).result.2

/-- The registry after a convention of the same name. -/
def halfway : Registry :=
  (commented.registerConvention "tenant" [⟨"id", .int, none⟩]
    (.compare .eq (.field "tenant") (.param "id"))).result.2

theorem reachable_commented : commented.Reachable := .register _ _ _ _ (.empty .blog)

theorem Reachable.convention_failed_commented :
    (∃ error, (commented.registerConvention "tenant" [⟨"id", .int, none⟩]
      (.compare .eq (.field "tenant") (.param "id"))).result = (.error error, halfway)) ∧
    ∃ kept : List Definition, kept.length = 1 ∧ (∀ d ∈ kept, d.name = "tenant") ∧
      halfway.named "tenant" = commented.named "tenant" ++ kept := by
  have failed : (commented.registerConvention "tenant" [⟨"id", .int, none⟩]
      (.compare .eq (.field "tenant") (.param "id"))).result =
        (.error (.duplicateFilter "Comment" "tenant"), halfway) := rfl
  obtain ⟨kept, -, made, -, -, underName, size, -⟩ :=
    reachable_commented.convention_failed failed
  have before : commented.size = 1 := by decide
  have after : halfway.size = 2 := by decide
  exact ⟨⟨_, failed⟩, kept, by omega, fun d member => (made d member).1, underName "tenant"⟩

/-- **A convention that fails may leave definitions behind.** -/
theorem convention_not_atomic :
    commented.Reachable ∧
      (commented.registerConvention "tenant" [⟨"id", .int, none⟩]
        (.compare .eq (.field "tenant") (.param "id"))).result =
          (.error (.duplicateFilter "Comment" "tenant"), halfway) ∧
      (commented.filtersFor "Post").length = 0 ∧ (halfway.filtersFor "Post").length = 1 ∧
      (commented.named "tenant").length = 1 ∧ (halfway.named "tenant").length = 2 ∧
      commented.size = 1 ∧ halfway.size = 2 ∧
      commented.nextOrdinal = 1 ∧ halfway.nextOrdinal = 2 := by
  refine ⟨reachable_commented, rfl, ?_⟩
  decide

end RowScope.Registry
