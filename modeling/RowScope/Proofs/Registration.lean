import RowScope.Proofs.Admission
import RowScope.Proofs.Convention

/-!
# What comes of a registration

A registration is refused for one of five reasons, and otherwise appended to two lists.

* `Registry.FirstConflict`: which parameter, and which older definition of the name, a
  conflict of types is reported for (`Records.sharedFault?_eq_some_iff`).
* `Registry.Refuses` are the reasons in the order in which they count;
  `Records.examine_eq_error_iff` says that they are the errors of an examination.
* `Registry.Admits` says that no reason applies (`Records.exists_examine_iff`), and
  `Registry.Appends` what an admitted registration does to all that can be read.
* `Registry.registerStepwise` goes through the indexes one by one: it opens the list of the
  entity type, looks at the names in it once more and draws an ordinal before it files the
  definition.  The second look never finds anything (`registerStepwise_eq`), so no list is
  left open and no ordinal is lost.
* `Registry.Reachable.register_exact` puts them together.
-/

namespace RowScope

/-! ## Writing twice under one name -/

theorem Entries.put_put {α : Type} (name : String) (v w : α) (es : List (String × α)) :
    put name w (put name v es) = put name w es := by
  induction es with
  | nil => simp [put]
  | cons e es ih =>
    obtain ⟨k, u⟩ := e
    by_cases same : k = name
    · simp [put, same]
    · simp [put, same, ih]

/-- The second of two values put under one name wins. -/
theorem Dict.put_put {α : Type} (d : Dict α) (name : String) (v w : α) :
    (d.put name v).put name w = d.put name w := by
  unfold put
  congr 1
  exact Entries.put_put name v w d.entries

namespace Registry

variable {r r' : Registry} {ds : List Definition} {d : Definition} {x : Registration}
  {e : FilterError}

/-! ## Conflicts of types -/

/-- A definition declares a parameter of the name of another one, with another type. -/
def Contradicts (d : Definition) (p q : Parameter) : Prop :=
  q ∈ d.parameters ∧ q.name = p.name ∧ q.type ≠ p.type

/-- The conflict that a registration reports: the first of its parameters that an older
definition of its name contradicts, and the first definition that does. -/
structure FirstConflict (r : Registry) (x : Registration) (p : Parameter) (d : Definition)
    (q : Parameter) : Prop where
  contradicts : Contradicts d p q
  firstParameter : ∃ before after, x.params = before ++ p :: after ∧
    ∀ p' ∈ before, ∀ d' ∈ r.named x.name, ∀ q', ¬ Contradicts d' p' q'
  firstDefinition : ∃ before after, r.named x.name = before ++ d :: after ∧
    ∀ d' ∈ before, ∀ q', ¬ Contradicts d' p q'

/-- The fault of one parameter and one older definition. -/
def conflict? (p : Parameter) (d : Definition) : Option TemplateFault :=
  match d.parameter? p.name with
  | some q => if q.type = p.type then none else some (.sharedParameter p.name q.type d.entity)
  | none => none

section Conflicts

variable {catalog : Catalog} {p : Parameter} {fault : TemplateFault}

theorem conflict?_eq_some_iff (resolved : d.Resolved catalog) :
    conflict? p d = some fault ↔
      ∃ q, Contradicts d p q ∧ fault = .sharedParameter p.name q.type d.entity := by
  have declared_iff : ∀ q, d.parameter? p.name = some q ↔ q ∈ d.parameters ∧ q.name = p.name :=
    fun q => resolved.parameter?_eq_some_iff
  rw [conflict?]
  cases declared : d.parameter? p.name with
  | none =>
    refine iff_of_false (by simp) ?_
    rintro ⟨q, ⟨member, same, -⟩, -⟩
    rw [(declared_iff q).2 ⟨member, same⟩] at declared
    cases declared
  | some q =>
    obtain ⟨member, same⟩ := (declared_iff q).1 declared
    dsimp only
    split
    · next agree =>
      refine iff_of_false (by simp) ?_
      rintro ⟨q', ⟨member', same', differs⟩, -⟩
      have first := (declared_iff q').2 ⟨member', same'⟩
      rw [declared] at first
      cases first
      exact differs agree
    · next differs =>
      constructor
      · rintro ⟨⟩
        exact ⟨q, ⟨member, same, differs⟩, rfl⟩
      · rintro ⟨q', ⟨member', same', -⟩, rfl⟩
        have first := (declared_iff q').2 ⟨member', same'⟩
        rw [declared] at first
        cases first
        rfl

theorem conflict?_eq_none_iff (resolved : d.Resolved catalog) :
    conflict? p d = none ↔ ∀ q, ¬ Contradicts d p q := by
  rw [Option.eq_none_iff_forall_ne_some]
  constructor
  · intro faultless q contradicts
    exact faultless _ ((conflict?_eq_some_iff resolved).2 ⟨q, contradicts, rfl⟩)
  · intro agree fault found
    obtain ⟨q, contradicts, -⟩ := (conflict?_eq_some_iff resolved).1 found
    exact agree q contradicts

theorem findSome?_conflict?_eq_none_iff {fs : List Definition}
    (resolved : ∀ d ∈ fs, d.Resolved catalog) :
    fs.findSome? (conflict? p) = none ↔ ∀ d ∈ fs, ∀ q, ¬ Contradicts d p q := by
  rw [List.findSome?_eq_none_iff]
  exact forall₂_congr fun d member => conflict?_eq_none_iff (resolved d member)

/-- Of several definitions the first that contradicts a parameter is reported. -/
theorem findSome?_conflict?_eq_some_iff {fs : List Definition}
    (resolved : ∀ d ∈ fs, d.Resolved catalog) :
    fs.findSome? (conflict? p) = some fault ↔
      ∃ d q, Contradicts d p q ∧ (∃ before after, fs = before ++ d :: after ∧
        ∀ d' ∈ before, ∀ q', ¬ Contradicts d' p q') ∧
          fault = .sharedParameter p.name q.type d.entity := by
  rw [List.findSome?_eq_some_iff]
  constructor
  · rintro ⟨before, d, after, rfl, found, passed⟩
    obtain ⟨others, rest⟩ := List.forall_mem_append.1 resolved
    have this := rest d List.mem_cons_self
    obtain ⟨q, contradicts, same⟩ := (conflict?_eq_some_iff this).1 found
    exact ⟨d, q, contradicts, ⟨before, after, rfl, fun d' earlier =>
      (conflict?_eq_none_iff (others d' earlier)).1 (passed d' earlier)⟩, same⟩
  · rintro ⟨d, q, contradicts, ⟨before, after, rfl, passed⟩, rfl⟩
    obtain ⟨others, rest⟩ := List.forall_mem_append.1 resolved
    have this := rest d List.mem_cons_self
    exact ⟨before, d, after, rfl, (conflict?_eq_some_iff this).2 ⟨q, contradicts, rfl⟩,
      fun d' earlier => (conflict?_eq_none_iff (others d' earlier)).2 (passed d' earlier)⟩

end Conflicts

/-- **The conflict that is reported** is the first one. -/
theorem Records.sharedFault?_eq_some_iff (records : r.Records ds) {fault : TemplateFault} :
    sharedFault? (r.named x.name) x.params = some fault ↔
      ∃ p d q, r.FirstConflict x p d q ∧ fault = .sharedParameter p.name q.type d.entity := by
  have resolved : ∀ d ∈ r.named x.name, d.Resolved r.catalog :=
    fun d filed => records.resolved d (records.mem_named.1 filed).1
  have unfolded : sharedFault? (r.named x.name) x.params =
      x.params.findSome? fun p => (r.named x.name).findSome? (conflict? p) := rfl
  rw [unfolded, List.findSome?_eq_some_iff]
  simp only [findSome?_conflict?_eq_some_iff resolved, findSome?_conflict?_eq_none_iff resolved]
  constructor
  · rintro ⟨before, p, after, params, ⟨d, q, contradicts, first, same⟩, passed⟩
    exact ⟨p, d, q, ⟨contradicts, ⟨before, after, params, passed⟩, first⟩, same⟩
  · rintro ⟨p, d, q, ⟨contradicts, ⟨before, after, params, passed⟩, first⟩, same⟩
    exact ⟨before, p, after, params, ⟨d, q, contradicts, first, same⟩, passed⟩

theorem Records.sharedFault?_eq_none_iff (records : r.Records ds) :
    sharedFault? (r.named x.name) x.params = none ↔
      ∀ p ∈ x.params, ∀ d ∈ r.named x.name, ∀ q, ¬ Contradicts d p q := by
  have resolved : ∀ d ∈ r.named x.name, d.Resolved r.catalog :=
    fun d filed => records.resolved d (records.mem_named.1 filed).1
  rw [sharedFault?, List.findSome?_eq_none_iff]
  exact forall₂_congr fun p _ => findSome?_conflict?_eq_none_iff resolved

/-! ## Refusals -/

/-- Some definition of an entity type has a name. -/
def Taken (r : Registry) (entity name : String) : Prop :=
  ∃ d ∈ r.definitions, d.entity = entity ∧ d.name = name

/-- Why a registration is refused.  An earlier reason counts before a later one. -/
inductive Refuses (r : Registry) (x : Registration) : FilterError → Prop
  | frozen (active : r.active = true) : Refuses r x (.storeFrozen x.entity x.name)
  | taken (inactive : r.active = false) (taken : r.Taken x.entity x.name) :
    Refuses r x (.duplicateFilter x.entity x.name)
  | unmapped (inactive : r.active = false) (free : ¬ r.Taken x.entity x.name)
      (unmapped : r.catalog.schema? x.entity = none) :
    Refuses r x (.invalidTemplate x.entity x.name TemplateFault.unmapped.reason)
  | unresolved {schema : Schema} {fault : TemplateFault} (inactive : r.active = false)
      (free : ¬ r.Taken x.entity x.name) (mapped : r.catalog.schema? x.entity = some schema)
      (unresolved : Template.resolve schema x.params x.template = .error fault) :
    Refuses r x (.invalidTemplate x.entity x.name fault.reason)
  | conflict {schema : Schema} {t : Template} {p q : Parameter} {d : Definition}
      (inactive : r.active = false) (free : ¬ r.Taken x.entity x.name)
      (mapped : r.catalog.schema? x.entity = some schema)
      (resolved : Template.resolve schema x.params x.template = .ok t)
      (first : r.FirstConflict x p d q) :
    Refuses r x (.invalidTemplate x.entity x.name
      (TemplateFault.sharedParameter p.name q.type d.entity).reason)

theorem Records.isSome_find?_iff (records : r.Records ds) {entity name : String} :
    (r.find? entity name).isSome = true ↔ r.Taken entity name := by
  rw [← not_iff_not, Bool.not_eq_true, Option.isSome_eq_false_iff, Option.isNone_iff_eq_none,
    records.find?_eq_none_iff, Taken]
  simp only [records.mem_definitions, not_exists, not_and, ne_eq]

/-- A definition is not made for want of a schema, of a well-typed template or of
agreement. -/
theorem define_eq_error_iff {fault : TemplateFault} :
    r.define x.entity x.name x.params x.template = .error fault ↔
      (r.catalog.schema? x.entity = none ∧ fault = .unmapped) ∨
      ∃ schema, r.catalog.schema? x.entity = some schema ∧
        (Template.resolve schema x.params x.template = .error fault ∨
          ∃ t, Template.resolve schema x.params x.template = .ok t ∧
            sharedFault? (r.named x.name) x.params = some fault) := by
  rw [define]
  cases r.catalog.schema? x.entity with
  | none => simp [eq_comm]
  | some schema =>
    cases resolution : Template.resolve schema x.params x.template with
    | error fault' => simp [resolution, bind, Except.bind]
    | ok t =>
      cases sharedFault? (r.named x.name) x.params with
      | none => simp [resolution, bind, Except.bind]
      | some fault' => simp [resolution, bind, Except.bind]

/-- **The errors of an examination** are the reasons for a refusal. -/
theorem Records.examine_eq_error_iff (records : r.Records ds) :
    r.examine x.entity x.name x.params x.template = .error e ↔ r.Refuses x e := by
  constructor
  · intro refused
    rw [examine] at refused
    split at refused
    · next active =>
      cases refused
      exact .frozen active
    next notActive =>
    have inactive : r.active = false := by simpa using notActive
    split at refused
    · next known =>
      cases refused
      exact .taken inactive (records.isSome_find?_iff.1 known)
    next unknown =>
    have free : ¬ r.Taken x.entity x.name := mt records.isSome_find?_iff.2 unknown
    split at refused
    · cases refused
    next fault defined =>
    cases refused
    rcases define_eq_error_iff.1 defined with
      ⟨unmapped, rfl⟩ | ⟨schema, mapped, unresolved | ⟨t, resolved, shared⟩⟩
    · exact .unmapped inactive free unmapped
    · exact .unresolved inactive free mapped unresolved
    · obtain ⟨p, d, q, first, rfl⟩ := records.sharedFault?_eq_some_iff.1 shared
      exact .conflict inactive free mapped resolved first
  · -- past the first two checks the examination fails as the definition does
    have of_define : ∀ {fault}, r.active = false → ¬ r.Taken x.entity x.name →
        r.define x.entity x.name x.params x.template = .error fault →
          r.examine x.entity x.name x.params x.template =
            .error (.invalidTemplate x.entity x.name fault.reason) := by
      intro fault inactive free defined
      rw [examine, inactive, if_neg Bool.false_ne_true,
        if_neg (mt records.isSome_find?_iff.1 free), defined]
    rintro (active | ⟨inactive, taken⟩ | ⟨inactive, free, unmapped⟩ |
      ⟨inactive, free, mapped, unresolved⟩ | ⟨inactive, free, mapped, resolved, first⟩)
    · rw [examine, if_pos active]
    · rw [examine, inactive, if_neg Bool.false_ne_true,
        if_pos (records.isSome_find?_iff.2 taken)]
    · exact of_define inactive free (define_eq_error_iff.2 (.inl ⟨unmapped, rfl⟩))
    · exact of_define inactive free
        (define_eq_error_iff.2 (.inr ⟨_, mapped, .inl unresolved⟩))
    · have shared := records.sharedFault?_eq_some_iff.2 ⟨_, _, _, first, rfl⟩
      exact of_define inactive free
        (define_eq_error_iff.2 (.inr ⟨_, mapped, .inr ⟨_, resolved, shared⟩⟩))

/-! ## Admission -/

/-- Nothing stands against a registration. -/
structure Admits (r : Registry) (x : Registration) : Prop where
  inactive : r.active = false
  free : ¬ r.Taken x.entity x.name
  resolves : ∃ schema t, r.catalog.schema? x.entity = some schema ∧
    Template.resolve schema x.params x.template = .ok t
  agrees : ∀ p ∈ x.params, ∀ d ∈ r.named x.name, ∀ q, ¬ Contradicts d p q

theorem Records.exists_examine_iff (records : r.Records ds) :
    (∃ d, r.examine x.entity x.name x.params x.template = .ok d) ↔ r.Admits x := by
  constructor
  · rintro ⟨d, examined⟩
    obtain ⟨inactive, unknown, entity, -, params, template, -, ⟨schema, mapped, resolved⟩,
      shared⟩ := of_examine examined
    rw [entity] at mapped
    rw [params, template] at resolved
    refine ⟨inactive, fun taken => ?_, ⟨schema, _, mapped, resolved⟩,
      records.sharedFault?_eq_none_iff.1 shared⟩
    have known := records.isSome_find?_iff.2 taken
    rw [unknown] at known
    cases known
  · rintro ⟨inactive, free, ⟨schema, t, mapped, resolved⟩, agrees⟩
    have shared := records.sharedFault?_eq_none_iff.2 agrees
    refine ⟨⟨x.name, x.entity, x.params, t, r.nextOrdinal⟩, ?_⟩
    rw [examine, inactive, if_neg Bool.false_ne_true,
      if_neg (mt records.isSome_find?_iff.1 free), define_eq_ok mapped resolved shared]

/-- What an admitted registration does: its definition comes to stand at the end of the
two lists that it belongs to, with the number of definitions before it as its ordinal. -/
structure Appends (r : Registry) (x : Registration) (d : Definition) (r' : Registry) :
    Prop where
  entity : d.entity = x.entity
  name : d.name = x.name
  parameters : d.parameters = x.params
  template : ∃ schema, r.catalog.schema? x.entity = some schema ∧
    Template.resolve schema x.params x.template = .ok d.template
  ordinal : d.ordinal = r.size
  onEntity : r'.filtersFor x.entity = r.filtersFor x.entity ++ [d]
  onOthers : ∀ other, other ≠ x.entity → r'.filtersFor other = r.filtersFor other
  underName : r'.named x.name = r.named x.name ++ [d]
  underOthers : ∀ other, other ≠ x.name → r'.named other = r.named other
  size : r'.size = r.size + 1
  next : r'.nextOrdinal = r'.size
  active : r'.active = r.active
  catalog : r'.catalog = r.catalog

theorem Records.appends (records : r.Records ds)
    (examined : r.examine x.entity x.name x.params x.template = .ok d) :
    r.Appends x d (r.add d) := by
  have counted := records.size_eq
  have counted' := (records.add_of_examine examined).size_eq
  obtain ⟨-, -, entity, name, parameters, template, ordinal, ⟨schema, mapped, resolved⟩, -⟩ :=
    of_examine examined
  have gains := gains_add (r := r) ordinal
  rw [entity] at mapped
  rw [parameters, template] at resolved
  refine ⟨entity, name, parameters, ⟨schema, mapped, resolved⟩, ordinal.trans counted.symm,
    ?_, ?_, ?_, ?_, ?_, counted'.symm, rfl, rfl⟩
  · rw [gains.onEntity, List.filter_cons_of_pos (by simp [entity]), List.filter_nil]
  · intro other differs
    rw [gains.onEntity, List.filter_cons_of_neg (by simp [entity, differs.symm]),
      List.filter_nil, List.append_nil]
  · rw [gains.underName, if_pos name.symm]
  · intro other differs
    rw [gains.underName, if_neg (name ▸ differs), List.append_nil]
  · rw [counted', gains.next, counted, List.length_singleton]

/-! ## Through the indexes one by one -/

/-- Registration in the order in which the indexes are changed.  The list of the entity
type is opened first and its names are looked at once more; only then is an ordinal drawn
and the definition filed, under its entity type and after that under its name. -/
def registerStepwise (r : Registry) (x : Registration) :
    Except FilterError Definition × Registry :=
  match r.examine x.entity x.name x.params x.template with
  | .error e => (.error e, r)
  | .ok made =>
    let opened := { r with byEntity := r.byEntity.put x.entity (r.filtersFor x.entity) }
    if (opened.filtersFor x.entity).any fun d => d.name = x.name then
      (.error (.duplicateFilter x.entity x.name), opened)
    else
      let d := { made with ordinal := opened.nextOrdinal }
      let drawn := { opened with nextOrdinal := opened.nextOrdinal + 1 }
      let filed := { drawn with byEntity := file drawn.byEntity x.entity d }
      (.ok d, { filed with byName := file filed.byName x.name d })

/-- Opening a list changes nothing that is read of it. -/
theorem get?_open (index : Dict (List Definition)) (key : String) :
    (index.put key ((index.get? key).getD [])).get? key = some ((index.get? key).getD []) := by
  rw [Dict.get?_put, if_pos rfl]

/-- A definition is filed in an opened list as in one that was not opened. -/
theorem file_open (index : Dict (List Definition)) (key : String) (d : Definition) :
    file (index.put key ((index.get? key).getD [])) key d = file index key d := by
  rw [file, get?_open, Option.getD_some, Dict.put_put, file]

/-- The second look at the names finds nothing that the first one has not found. -/
theorem registerStepwise_eq (r : Registry) (x : Registration) :
    r.registerStepwise x = (r.register x.entity x.name x.params x.template).result := by
  rw [registerStepwise, register]
  cases examined : r.examine x.entity x.name x.params x.template with
  | error e => rfl
  | ok d =>
    obtain ⟨-, unknown, entity, name, -, -, ordinal, -⟩ := of_examine examined
    have unnamed : ¬ ((r.filtersFor x.entity).any fun d => d.name = x.name) = true := by
      simpa [find?] using unknown
    have opened : ({ r with byEntity := r.byEntity.put x.entity (r.filtersFor x.entity) } :
        Registry).filtersFor x.entity = r.filtersFor x.entity := by
      unfold filtersFor
      rw [get?_open, Option.getD_some]
    have same : ({ d with ordinal := r.nextOrdinal } : Definition) = d := by
      rw [← ordinal]
    dsimp only
    rw [opened, if_neg unnamed, same, filtersFor, file_open, add, entity, name]

/-! ## The outcome -/

/-- **What comes of a registration.**  It is refused for the first reason that applies, and
then the whole registry is as it was.  If none applies, the definition is made and
appended, and nothing else changes.  Going through the indexes one by one comes to the
same, so that no refusal leaves a trace in one of them. -/
theorem Reachable.register_exact (reachable : r.Reachable) (x : Registration) :
    (∀ e r', (r.register x.entity x.name x.params x.template).result = (.error e, r') ↔
      r.Refuses x e ∧ r' = r) ∧
    ((∃ d r', (r.register x.entity x.name x.params x.template).result = (.ok d, r')) ↔
      r.Admits x) ∧
    (∀ d r', (r.register x.entity x.name x.params x.template).result = (.ok d, r') →
      r.Appends x d r') ∧
    r.registerStepwise x = (r.register x.entity x.name x.params x.template).result := by
  obtain ⟨ds, records⟩ := reachable.exists_records
  refine ⟨fun e r' => ?_, ?_, fun d r' registered => ?_, r.registerStepwise_eq x⟩
  · rw [register_eq_error_iff, records.examine_eq_error_iff]
  · simp only [register_eq_ok_iff, exists_eq_right]
    exact records.exists_examine_iff
  · obtain ⟨examined, rfl⟩ := register_eq_ok_iff.1 registered
    exact records.appends examined

/-! Posts can be filtered by tenant as comments are, if their filter takes the tenant for a
number too. -/

theorem Reachable.register_exact_commented :
    commented.Reachable ∧
      (∃ d r', (commented.register "Post" "tenant" [⟨"id", .int, none⟩]
        (.compare .eq (.field "tenant") (.param "id"))).result = (.ok d, r') ∧
          d.ordinal = 1 ∧ r'.named "tenant" = commented.named "tenant" ++ [d]) ∧
      commented.Refuses ⟨"Post", "tenant", [⟨"id", .text, none⟩],
          .compare .eq (.field "tenant") (.literal (.int 1))⟩
        (.invalidTemplate "Post" "tenant"
          "parameter 'id' is declared as Int by the same filter on entity 'Comment'") := by
  obtain ⟨-, -, appends, -⟩ := reachable_commented.register_exact
    ⟨"Post", "tenant", [⟨"id", .int, none⟩], .compare .eq (.field "tenant") (.param "id")⟩
  obtain ⟨refused, -⟩ := reachable_commented.register_exact
    ⟨"Post", "tenant", [⟨"id", .text, none⟩], .compare .eq (.field "tenant") (.literal (.int 1))⟩
  refine ⟨reachable_commented, ⟨_, _, rfl, rfl, (appends _ _ rfl).underName⟩, ?_⟩
  exact ((refused _ commented).1 rfl).1

end Registry

end RowScope
