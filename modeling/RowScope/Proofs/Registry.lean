import RowScope.Proofs.Template
import RowScope.Registry
import Mathlib.Data.List.Pairwise

/-!
# The definitions of a registry

`Registry.Records r ds`: the registry holds the definitions `ds`, in the order of
registration.  Either index is a view of that list, and what registration checks
of a new definition against the older ones holds between any two of them.

* `Records.add`: filing a definition that was examined appends it.
* `Registry.Extends`: what registrations and activation do to a registry, whether
  they succeed or fail, is to append definitions.
* `Registry.Reachable`: the registries that any sequence of them leads to; each
  records some list (`Reachable.exists_records`).
-/

namespace RowScope

/-! ## One definition -/

namespace Definition

/-- The template of a definition is resolved against the schema of its entity type
and its own parameters. -/
def Resolved (catalog : Catalog) (d : Definition) : Prop :=
  ∃ schema, catalog.schema? d.entity = some schema ∧
    Template.resolve schema d.parameters d.template.expr = .ok d.template

variable {catalog : Catalog} {d : Definition}

theorem Resolved.distinct (resolved : d.Resolved catalog) :
    (d.parameters.map Parameter.name).Nodup := by
  obtain ⟨schema, -, template⟩ := resolved
  exact (Template.of_resolve template).2.1

/-- The template refers to declared parameters only. -/
theorem Resolved.declared (resolved : d.Resolved catalog) :
    ∀ name ∈ d.template.expr.paramOccurrences, ∃ p ∈ d.parameters, p.name = name := by
  obtain ⟨schema, -, template⟩ := resolved
  exact (Template.of_resolve template).2.2

theorem Resolved.parameter?_eq_some_iff (resolved : d.Resolved catalog) {name : String}
    {p : Parameter} : d.parameter? name = some p ↔ p ∈ d.parameters ∧ p.name = name := by
  constructor
  · exact Template.mem_of_declaration?
  · rintro ⟨member, rfl⟩
    exact Template.declaration?_of_mem resolved.distinct member

end Definition

/-- Two definitions of one name give the parameters that they share one type. -/
def Definition.Agree (d d' : Definition) : Prop :=
  d.name = d'.name → ∀ p ∈ d.parameters, ∀ p' ∈ d'.parameters, p.name = p'.name →
    p.type = p'.type

/-! ## One index -/

namespace Dict

/-- Under every key an index has those of some definitions that have the key, in their
order. -/
def Groups (index : Dict (List Definition)) (keyOf : Definition → String)
    (ds : List Definition) : Prop :=
  ∀ key, (index.get? key).getD [] = ds.filter fun d => keyOf d = key

variable {index : Dict (List Definition)} {keyOf : Definition → String} {ds : List Definition}

theorem Groups.eq_filter (groups : index.Groups keyOf ds) {key : String}
    {fs : List Definition} (filed : index.get? key = some fs) :
    fs = ds.filter fun d => keyOf d = key := by
  have grouped := groups key
  rwa [filed] at grouped

/-- An index loses no definition and makes none up. -/
theorem Groups.mem_iff (groups : index.Groups keyOf ds) {d : Definition} :
    d ∈ index.entries.flatMap (fun e => e.2) ↔ d ∈ ds := by
  rw [List.mem_flatMap]
  constructor
  · rintro ⟨⟨key, fs⟩, filed, member⟩
    have grouped := groups.eq_filter (Dict.mem_entries_iff.1 filed)
    exact (List.mem_filter.1 (grouped ▸ member)).1
  · intro member
    have grouped := groups (keyOf d)
    have kept : d ∈ ds.filter fun d' => keyOf d' = keyOf d := by
      rw [List.mem_filter, decide_eq_true_iff]
      exact ⟨member, rfl⟩
    rw [← grouped] at kept
    cases filed : index.get? (keyOf d) with
    | none =>
      rw [filed] at kept
      cases kept
    | some fs =>
      rw [filed] at kept
      exact ⟨(keyOf d, fs), Dict.mem_entries_iff.2 filed, kept⟩

end Dict

namespace Registry

/-! ## The list behind both indexes -/

/-- `ds` are the definitions of a registry in the order of registration. -/
structure Records (r : Registry) (ds : List Definition) : Prop where
  onEntity : ∀ entity, r.filtersFor entity = ds.filter fun d => d.entity = entity
  underName : ∀ name, r.named name = ds.filter fun d => d.name = name
  /-- No list of an index is empty. -/
  entityFiled : ∀ {entity fs}, r.byEntity.get? entity = some fs → fs ≠ []
  nameFiled : ∀ {name fs}, r.byName.get? name = some fs → fs ≠ []
  ordinals : ds.map Definition.ordinal = List.range r.nextOrdinal
  distinct : ds.Pairwise fun d d' => d.entity = d'.entity → d.name ≠ d'.name
  agree : ∀ d ∈ ds, ∀ d' ∈ ds, d.Agree d'
  resolved : ∀ d ∈ ds, d.Resolved r.catalog

theorem records_empty (catalog : Catalog) : (empty catalog).Records [] where
  onEntity _ := rfl
  underName _ := rfl
  entityFiled filed := by cases filed
  nameFiled filed := by cases filed
  ordinals := rfl
  distinct := .nil
  agree _ member := by cases member
  resolved _ member := by cases member

variable {r r' : Registry} {ds : List Definition} {d d' : Definition}

theorem Records.mem_filtersFor (records : r.Records ds) {entity : String} :
    d ∈ r.filtersFor entity ↔ d ∈ ds ∧ d.entity = entity := by
  rw [records.onEntity, List.mem_filter, decide_eq_true_iff]

theorem Records.mem_named (records : r.Records ds) {name : String} :
    d ∈ r.named name ↔ d ∈ ds ∧ d.name = name := by
  rw [records.underName, List.mem_filter, decide_eq_true_iff]

theorem Records.groups_byEntity (records : r.Records ds) :
    r.byEntity.Groups Definition.entity ds := records.onEntity

theorem Records.groups_byName (records : r.Records ds) :
    r.byName.Groups Definition.name ds := records.underName

theorem Records.mem_definitions (records : r.Records ds) : d ∈ r.definitions ↔ d ∈ ds :=
  records.groups_byEntity.mem_iff

theorem Records.mem_of_lookup (records : r.Records ds) {entity name : String}
    (found : r.lookup entity name = .ok d) : d ∈ ds ∧ d.entity = entity ∧ d.name = name := by
  rw [lookup] at found
  split at found
  · next d' first =>
    cases found
    obtain ⟨member, onEntity⟩ := records.mem_filtersFor.1 (List.mem_of_find?_eq_some first)
    exact ⟨member, onEntity, by simpa using List.find?_some first⟩
  · cases found

/-- Entity type and name identify a definition. -/
theorem Records.eq_of_key (records : r.Records ds) (member : d ∈ ds) (member' : d' ∈ ds)
    (entity : d.entity = d'.entity) (name : d.name = d'.name) : d = d' := by
  by_contra other
  have : Std.Symm fun a b : Definition => a.entity = b.entity → a.name ≠ b.name :=
    ⟨fun _ _ apart same => (apart same.symm).symm⟩
  exact records.distinct.forall member member' other entity name

theorem Records.contains_iff (records : r.Records ds) {name : String} :
    r.contains name = true ↔ ∃ d ∈ ds, d.name = name := by
  have listed := records.underName name
  unfold named at listed
  rw [contains, Dict.contains]
  cases filed : r.byName.get? name with
  | none =>
    rw [filed] at listed
    have nothing : ds.filter (fun d => d.name = name) = [] := listed.symm
    simpa using nothing
  | some fs =>
    rw [filed] at listed
    obtain ⟨d, member⟩ := List.exists_mem_of_ne_nil fs (records.nameFiled filed)
    have kept : d ∈ ds.filter fun d => d.name = name := listed ▸ member
    rw [List.mem_filter, decide_eq_true_iff] at kept
    simpa using ⟨d, kept⟩

/-! ## Filing a definition -/

theorem get?_file (index : Dict (List Definition)) (key other : String) (d : Definition) :
    ((file index key d).get? other).getD [] =
      (index.get? other).getD [] ++ if key = other then [d] else [] := by
  rw [file, Dict.get?_put]
  split
  · next same => rw [same]; rfl
  · exact (List.append_nil _).symm

theorem ne_nil_of_get?_file {index : Dict (List Definition)} {key other : String}
    {fs : List Definition} (filled : ∀ {name gs}, index.get? name = some gs → gs ≠ [])
    (found : (file index key d).get? other = some fs) : fs ≠ [] := by
  rw [file, Dict.get?_put] at found
  split at found
  · cases found
    simp
  · exact filled found

/-- Filing a definition that passed the checks of registration appends it. -/
theorem Records.add (records : r.Records ds)
    (fresh : ∀ d' ∈ ds, d'.entity = d.entity → d'.name ≠ d.name)
    (agree : ∀ d' ∈ ds, d'.Agree d) (resolved : d.Resolved r.catalog)
    (ordinal : d.ordinal = r.nextOrdinal) : (r.add d).Records (ds ++ [d]) where
  onEntity entity := by
    have listed := records.onEntity entity
    unfold filtersFor at listed ⊢
    rw [Registry.add, get?_file, listed, List.filter_append]
    by_cases same : d.entity = entity <;> simp [same]
  underName name := by
    have listed := records.underName name
    unfold named at listed ⊢
    rw [Registry.add, get?_file, listed, List.filter_append]
    by_cases same : d.name = name <;> simp [same]
  entityFiled := ne_nil_of_get?_file records.entityFiled
  nameFiled := ne_nil_of_get?_file records.nameFiled
  ordinals := by
    rw [List.map_append, records.ordinals, List.map_singleton, ordinal]
    exact List.range_succ.symm
  distinct := List.pairwise_append.2 ⟨records.distinct, List.pairwise_singleton _ _,
    fun d' member _ last => List.mem_singleton.1 last ▸ fresh d' member⟩
  agree := by
    intro a memberA b memberB
    rcases List.mem_append.1 memberA with oldA | newA <;>
      rcases List.mem_append.1 memberB with oldB | newB
    · exact records.agree a oldA b oldB
    · exact List.mem_singleton.1 newB ▸ agree a oldA
    · intro name p memberP p' memberP' same
      rw [List.mem_singleton.1 newA] at name memberP
      exact (agree b oldB name.symm p' memberP' p memberP same.symm).symm
    · -- a definition agrees with itself, since its parameters have distinct names
      intro _ p memberP p' memberP' same
      rw [List.mem_singleton.1 newA] at memberP
      rw [List.mem_singleton.1 newB] at memberP'
      have first := Template.declaration?_of_mem resolved.distinct memberP
      have second := Template.declaration?_of_mem resolved.distinct memberP'
      rw [same, second] at first
      rw [Option.some.inj first]
  resolved a member := by
    rcases List.mem_append.1 member with old | new
    · exact records.resolved a old
    · exact List.mem_singleton.1 new ▸ resolved

/-! ## Registration -/

/-- The definition that a successful examination gives, and what it has checked. -/
theorem of_examine {entity name : String} {params : List Parameter} {template : Expr}
    (examined : r.examine entity name params template = .ok d) :
    r.active = false ∧ r.find? entity name = none ∧ d.entity = entity ∧ d.name = name ∧
      d.parameters = params ∧ d.template.expr = template ∧ d.ordinal = r.nextOrdinal ∧
      d.Resolved r.catalog ∧ sharedFault? (r.named name) params = none := by
  rw [examine] at examined
  split at examined
  · cases examined
  next inactive =>
  split at examined
  · cases examined
  next unknown =>
  split at examined
  · next defined =>
    cases examined
    rw [define] at defined
    split at defined
    · cases defined
    · next schema mapped =>
      obtain ⟨t, resolved, defined⟩ := bind_eq_ok_iff.1 defined
      split at defined
      · cases defined
      · next shared =>
        cases defined
        have kept := (Template.of_resolve resolved).1
        exact ⟨by simpa using inactive, by simpa using unknown, rfl, rfl, rfl, kept, rfl,
          ⟨schema, mapped, by rw [kept]; exact resolved⟩, shared⟩
  · cases examined

/-- Without a fault the new parameters have the types that older definitions give
them. -/
theorem type_eq_of_sharedFault? {existing : List Definition} {params : List Parameter}
    (shared : sharedFault? existing params = none) {p q : Parameter} (member : p ∈ params)
    (older : d ∈ existing) (declared : d.parameter? p.name = some q) : q.type = p.type := by
  have faultless := List.findSome?_eq_none_iff.1
    (List.findSome?_eq_none_iff.1 shared p member) d older
  rw [declared] at faultless
  dsimp only at faultless
  split at faultless
  · assumption
  · cases faultless

theorem Records.add_of_examine {entity name : String} {params : List Parameter}
    {template : Expr} (records : r.Records ds)
    (examined : r.examine entity name params template = .ok d) :
    (r.add d).Records (ds ++ [d]) := by
  obtain ⟨-, unknown, rfl, rfl, rfl, -, ordinal, resolved, shared⟩ := of_examine examined
  refine records.add ?_ ?_ resolved ordinal
  · intro d' member entity
    have listed := records.mem_filtersFor.2 ⟨member, entity⟩
    simpa using List.find?_eq_none.1 unknown d' listed
  · intro d' member name p memberP p' memberP' same
    have declared := (records.resolved d' member).parameter?_eq_some_iff.2 ⟨memberP, same⟩
    exact type_eq_of_sharedFault? shared memberP' (records.mem_named.2 ⟨member, name⟩) declared

/-! ## Growth -/

/-- A registry has the catalog of another one and the definitions of it, with more
after them. -/
structure Extends (r r' : Registry) : Prop where
  catalog : r'.catalog = r.catalog
  records : ∀ {ds}, r.Records ds → ∃ more, r'.Records (ds ++ more)

theorem Extends.refl (r : Registry) : r.Extends r :=
  ⟨rfl, fun {ds} records => ⟨[], by rwa [List.append_nil]⟩⟩

theorem Extends.trans {r₁ r₂ r₃ : Registry} (first : r₁.Extends r₂) (second : r₂.Extends r₃) :
    r₁.Extends r₃ := by
  refine ⟨second.catalog.trans first.catalog, fun {ds} records => ?_⟩
  obtain ⟨more, records⟩ := first.records records
  obtain ⟨further, records⟩ := second.records records
  exact ⟨more ++ further, by rwa [← List.append_assoc]⟩

theorem extends_register (r : Registry) (entity name : String) (params : List Parameter)
    (template : Expr) : r.Extends (r.register entity name params template).result.2 := by
  rw [register]
  split
  · exact .refl r
  · next d examined => exact ⟨rfl, fun records => ⟨[d], records.add_of_examine examined⟩⟩

theorem extends_registerEach (name : String) (params : List Parameter) (template : Expr)
    (entities : List String) (r : Registry) :
    r.Extends (registerEach name params template entities r).result.2 := by
  induction entities generalizing r with
  | nil => exact .refl r
  | cons entity entities ih =>
    have step := extends_register r entity name params template
    rw [registerEach, Logged.result_bind]
    generalize (r.register entity name params template).result = outcome at step ⊢
    rcases outcome with ⟨_ | _, r'⟩
    · exact step
    · exact step.trans (ih r')

theorem extends_registerConvention (r : Registry) (name : String) (params : List Parameter)
    (template : Expr) :
    r.Extends (r.registerConvention name params template).result.2 := by
  have each := extends_registerEach name params template (r.carriers template) r
  rw [registerConvention]
  split
  · exact .refl r
  · rw [Logged.result_bind]
    generalize (registerEach name params template (r.carriers template) r).result = outcome
      at each ⊢
    rcases outcome with ⟨_ | _, r'⟩
    · exact each
    · exact each

theorem extends_activate (r : Registry) : r.Extends r.activate.result.2 := by
  rw [activate]
  split
  · exact .refl r
  · exact ⟨rfl, fun {ds} ⟨onEntity, underName, entityFiled, nameFiled, ordinals, distinct,
      agree, resolved⟩ => ⟨[], by
        rw [List.append_nil]
        exact ⟨onEntity, underName, entityFiled, nameFiled, ordinals, distinct, agree,
          resolved⟩⟩⟩

/-- The registries that come of registrations and activations, whether these
succeed or fail. -/
inductive Reachable : Registry → Prop
  | empty (catalog : Catalog) : Reachable (empty catalog)
  | register {r : Registry} (entity name : String) (params : List Parameter)
      (template : Expr) :
    Reachable r → Reachable (r.register entity name params template).result.2
  | convention {r : Registry} (name : String) (params : List Parameter) (template : Expr) :
    Reachable r → Reachable (r.registerConvention name params template).result.2
  | activate {r : Registry} : Reachable r → Reachable r.activate.result.2

theorem Reachable.exists_records (reachable : r.Reachable) : ∃ ds, r.Records ds := by
  induction reachable with
  | empty catalog => exact ⟨[], records_empty catalog⟩
  | register entity name params template _ ih =>
    obtain ⟨ds, records⟩ := ih
    obtain ⟨more, records⟩ := (extends_register _ entity name params template).records records
    exact ⟨_, records⟩
  | convention name params template _ ih =>
    obtain ⟨ds, records⟩ := ih
    obtain ⟨more, records⟩ := (extends_registerConvention _ name params template).records records
    exact ⟨_, records⟩
  | activate _ ih =>
    obtain ⟨ds, records⟩ := ih
    obtain ⟨more, records⟩ := (extends_activate _).records records
    exact ⟨_, records⟩

end Registry

end RowScope
