import RowScope.Proofs.RegistryIndex

/-!
# Which registrations a registry admits

A registration is admitted if it makes a definition on its own, and that coexists with
every definition that is there.  Both conditions are blind to the order.

* `Registration.definition?` is the definition that a registration makes, without the
  place at which it comes to stand.
* `Definition.Coexists`: another entity type or another name, and one type for every
  shared parameter of one name.
* `Records.examine_eq_ok_iff` says when one registration is admitted, and
  `Records.accepts_iff` when a whole list of them is: that does not depend on the order
  (`Records.accepts_of_perm`).
-/

namespace RowScope

/-! ## Definitions without their places -/

/-- A definition without the place at which it was registered. -/
def Definition.unnumbered (d : Definition) : Definition := { d with ordinal := 0 }

/-- Only their places may differ. -/
theorem Definition.of_unnumbered {d d' : Definition} (same : d'.unnumbered = d.unnumbered) :
    d'.entity = d.entity ∧ d'.name = d.name ∧ d'.parameters = d.parameters := by
  cases d
  cases d'
  cases same
  exact ⟨rfl, rfl, rfl⟩

/-- Two definitions can stand in one registry. -/
def Definition.Coexists (d d' : Definition) : Prop :=
  (d.entity = d'.entity → d.name ≠ d'.name) ∧ d.Agree d'

theorem Definition.Coexists.symm {d d' : Definition} (coexist : d.Coexists d') :
    d'.Coexists d := by
  obtain ⟨apart, agree⟩ := coexist
  refine ⟨fun entity name => apart entity.symm name.symm, ?_⟩
  intro name p declared p' declared' same
  exact (agree name.symm p' declared' p declared same.symm).symm

/-- Whether definitions coexist does not depend on their places. -/
theorem pairwise_unnumbered_iff {ds : List Definition} :
    (ds.map Definition.unnumbered).Pairwise Definition.Coexists ↔
      ds.Pairwise Definition.Coexists := List.pairwise_map

/-! ## Registrations -/

/-- What is asked to be registered. -/
structure Registration where
  entity : String
  name : String
  params : List Parameter
  template : Expr

/-- The definition that a registration makes, if its template can be resolved. -/
def Registration.definition? (catalog : Catalog) (x : Registration) : Option Definition := do
  let schema ← catalog.schema? x.entity
  let template ← (Template.resolve schema x.params x.template).toOption
  pure ⟨x.name, x.entity, x.params, template, 0⟩

theorem Registration.unnumbered_of_definition? {catalog : Catalog} {x : Registration}
    {d : Definition} (made : x.definition? catalog = some d) : d.unnumbered = d := by
  obtain ⟨schema, -, made⟩ := Option.bind_eq_some_iff.1 made
  obtain ⟨template, -, made⟩ := Option.bind_eq_some_iff.1 made
  cases made
  rfl

namespace Registry

variable {r : Registry} {ds : List Definition} {d : Definition} {x : Registration}
  {xs ys : List Registration}

/-! ## One registration -/

theorem Records.find?_eq_none_iff (records : r.Records ds) {entity name : String} :
    r.find? entity name = none ↔ ∀ d ∈ ds, d.entity = entity → d.name ≠ name := by
  rw [find?, List.find?_eq_none]
  constructor
  · intro unknown d member onEntity
    simpa using unknown d (records.mem_filtersFor.2 ⟨member, onEntity⟩)
  · intro unknown d filed
    obtain ⟨member, onEntity⟩ := records.mem_filtersFor.1 filed
    simpa using unknown d member onEntity

theorem sharedFault?_of_agree {existing : List Definition} {params : List Parameter}
    (agree : ∀ p ∈ params, ∀ d ∈ existing, ∀ q, d.parameter? p.name = some q →
      q.type = p.type) : sharedFault? existing params = none := by
  refine List.findSome?_eq_none_iff.2 fun p member => ?_
  refine List.findSome?_eq_none_iff.2 fun d older => ?_
  split
  · next q declared => rw [if_pos (agree p member d older q declared)]
  · rfl

theorem Records.find?_eq_none_of_coexists (records : r.Records ds)
    (coexist : ∀ d' ∈ ds, d.Coexists d') : r.find? d.entity d.name = none :=
  records.find?_eq_none_iff.2 fun d' member onEntity same =>
    (coexist d' member).1 onEntity.symm same.symm

theorem Records.sharedFault?_of_coexists (records : r.Records ds)
    (coexist : ∀ d' ∈ ds, d.Coexists d') :
    sharedFault? (r.named d.name) d.parameters = none := by
  refine sharedFault?_of_agree fun p declared d' filed q found => ?_
  obtain ⟨member, same⟩ := records.mem_named.1 filed
  obtain ⟨declared', sameName⟩ := (records.resolved d' member).parameter?_eq_some_iff.1 found
  exact ((coexist d' member).2 same.symm p declared q declared' sameName.symm).symm

theorem define_eq_ok {schema : Schema} {template : Template}
    (mapped : r.catalog.schema? x.entity = some schema)
    (resolved : Template.resolve schema x.params x.template = .ok template)
    (shared : sharedFault? (r.named x.name) x.params = none) :
    r.define x.entity x.name x.params x.template =
      .ok ⟨x.name, x.entity, x.params, template, r.nextOrdinal⟩ := by
  rw [define, mapped]
  refine bind_eq_ok_iff.2 ⟨template, resolved, ?_⟩
  rw [shared]

/-- **A registration is admitted** if it makes a definition that coexists with all that
are there, and then comes to stand behind them. -/
theorem Records.examine_eq_ok_iff (records : r.Records ds) (inactive : r.active = false) :
    r.examine x.entity x.name x.params x.template = .ok d ↔
      x.definition? r.catalog = some d.unnumbered ∧ d.ordinal = r.nextOrdinal ∧
        ∀ d' ∈ ds, d.Coexists d' := by
  constructor
  · intro examined
    have added := records.add_of_examine examined
    obtain ⟨-, unknown, entity, name, params, template, ordinal, resolved, -⟩ :=
      of_examine examined
    refine ⟨?_, ordinal, fun d' member => ⟨fun sameEntity sameName => ?_, ?_⟩⟩
    · obtain ⟨schema, mapped, made⟩ := resolved
      rw [entity] at mapped
      rw [params, template] at made
      rw [Registration.definition?, mapped, Option.bind_eq_bind, Option.bind_some, made]
      rw [Definition.unnumbered, entity, name, params]
      rfl
    · have apart := records.find?_eq_none_iff.1 unknown d' member
      exact apart (sameEntity.symm.trans entity) (sameName.symm.trans name)
    · exact added.agree d (List.mem_append_right _ List.mem_cons_self) d'
        (List.mem_append_left _ member)
  · rintro ⟨made, ordinal, coexist⟩
    obtain ⟨schema, mapped, made⟩ := Option.bind_eq_some_iff.1 made
    obtain ⟨template, resolved, made⟩ := Option.bind_eq_some_iff.1 made
    obtain ⟨name, entity, params, t, n⟩ := d
    cases made
    dsimp only at ordinal
    have unknown := records.find?_eq_none_of_coexists coexist
    have shared := records.sharedFault?_of_coexists coexist
    cases resolution : Template.resolve schema x.params x.template with
    | error fault =>
      rw [resolution] at resolved
      cases resolved
    | ok template =>
      rw [resolution] at resolved
      cases resolved
      rw [examine, inactive, unknown, define_eq_ok mapped resolution shared, ← ordinal]
      rfl

/-! ## A list of registrations -/

/-- Registers one after the other. -/
def registerAll (r : Registry) : List Registration →
    List (Except FilterError Definition) × Registry
  | [] => ([], r)
  | x :: xs =>
    let outcome := (r.register x.entity x.name x.params x.template).result
    let (answers, last) := outcome.2.registerAll xs
    (outcome.1 :: answers, last)

/-- Every one is admitted. -/
def Accepts (r : Registry) (xs : List Registration) : Prop :=
  ∀ answer ∈ (r.registerAll xs).1, ∃ d, answer = .ok d

theorem accepts_cons_iff :
    r.Accepts (x :: xs) ↔ ∃ d, r.examine x.entity x.name x.params x.template = .ok d ∧
      (r.add d).Accepts xs := by
  rw [Accepts, registerAll, register]
  cases r.examine x.entity x.name x.params x.template with
  | error e => simp
  | ok d => simp [Accepts]

theorem registerAll_cons (examined : r.examine x.entity x.name x.params x.template = .ok d) :
    (r.registerAll (x :: xs)).2 = ((r.add d).registerAll xs).2 := by
  rw [registerAll, register, examined]

theorem Records.pairwise (records : r.Records ds) : ds.Pairwise Definition.Coexists :=
  records.distinct.imp_of_mem fun member member' apart =>
    ⟨apart, records.agree _ member _ member'⟩

/-- **A list of registrations is admitted** if each one makes a definition and these
coexist with one another and with what is there. -/
theorem Records.accepts_iff (records : r.Records ds) (inactive : r.active = false) :
    r.Accepts xs ↔ (∀ x ∈ xs, (x.definition? r.catalog).isSome = true) ∧
      (ds.map Definition.unnumbered ++ xs.filterMap fun x => x.definition? r.catalog).Pairwise
        Definition.Coexists := by
  induction xs generalizing r ds with
  | nil =>
    have alone : (ds.map Definition.unnumbered).Pairwise Definition.Coexists :=
      pairwise_unnumbered_iff.2 records.pairwise
    simpa [Accepts, registerAll] using alone
  | cons x xs ih =>
    rw [accepts_cons_iff, List.forall_mem_cons]
    constructor
    · rintro ⟨d, examined, rest⟩
      obtain ⟨made, -, -⟩ := (records.examine_eq_ok_iff inactive).1 examined
      obtain ⟨others, pairwise⟩ := (ih (records.add_of_examine examined) inactive).1 rest
      refine ⟨⟨by rw [made]; rfl, others⟩, ?_⟩
      rw [List.filterMap_cons, made]
      simpa [Registry.add] using pairwise
    · rintro ⟨⟨one, others⟩, pairwise⟩
      obtain ⟨d, made⟩ := Option.isSome_iff_exists.1 one
      have blank := Registration.unnumbered_of_definition? made
      rw [List.filterMap_cons, made] at pairwise
      have coexist : ∀ d' ∈ ds, d.Coexists d' := fun d' member =>
        Definition.Coexists.symm ((List.pairwise_append.1 pairwise).2.2 d'.unnumbered
          (List.mem_map_of_mem member) d List.mem_cons_self)
      have examined : r.examine x.entity x.name x.params x.template =
          .ok { d with ordinal := r.nextOrdinal } :=
        (records.examine_eq_ok_iff inactive).2 ⟨made.trans (congrArg some blank.symm), rfl, coexist⟩
      refine ⟨_, examined, (ih (records.add_of_examine examined) inactive).2 ⟨others, ?_⟩⟩
      rw [List.map_append, List.append_assoc]
      change (ds.map _ ++ d.unnumbered :: _).Pairwise _
      rw [blank]
      exact pairwise

/-- **The order does not matter** for that. -/
theorem Records.accepts_of_perm (records : r.Records ds) (inactive : r.active = false)
    (perm : ys.Perm xs) (accepts : r.Accepts xs) : r.Accepts ys := by
  obtain ⟨made, pairwise⟩ := (records.accepts_iff inactive).1 accepts
  refine (records.accepts_iff inactive).2 ⟨fun y member => made y (perm.mem_iff.1 member), ?_⟩
  have reordered := (perm.filterMap fun x => x.definition? r.catalog).append_left
    (ds.map Definition.unnumbered)
  exact (reordered.pairwise_iff fun coexist => coexist.symm).2 pairwise

/-- What was admitted is recorded. -/
theorem Records.registerAll (records : r.Records ds) (accepts : r.Accepts xs)
    (inactive : r.active = false) :
    ∃ more, (r.registerAll xs).2.Records (ds ++ more) ∧
      more.map Definition.unnumbered = xs.filterMap (fun x => x.definition? r.catalog) ∧
      (r.registerAll xs).2.catalog = r.catalog ∧ (r.registerAll xs).2.active = false := by
  induction xs generalizing r ds with
  | nil => exact ⟨[], by simpa [Registry.registerAll] using records, rfl, rfl, inactive⟩
  | cons x xs ih =>
    obtain ⟨d, examined, rest⟩ := accepts_cons_iff.1 accepts
    obtain ⟨made, -, -⟩ := (records.examine_eq_ok_iff inactive).1 examined
    obtain ⟨more, recorded, same, catalog, idle⟩ :=
      ih (records.add_of_examine examined) rest inactive
    rw [registerAll_cons examined]
    refine ⟨d :: more, ?_, ?_, catalog, idle⟩
    · rwa [List.append_assoc] at recorded
    · rw [List.map_cons, List.filterMap_cons, made, same]
      rfl

end Registry

end RowScope
