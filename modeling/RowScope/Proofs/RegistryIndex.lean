import RowScope.Proofs.Compilation
import Mathlib.Data.List.Nodup
import Mathlib.Data.String.Basic

/-!
# The two indexes of a registry

`Registry.Indexed` is what everyone who reads a registry relies on: interception on
the lists by entity type, sessions on those by name, the cache on the uniqueness of
both together, and all of them on the order of registration.

* `Dict.Groups.perm`: an index that groups some definitions holds each of them once.
* `Registry.indexed_of_records`: all of it follows from the one list behind both indexes.
* `Registry.Reachable.indexed`: hence it holds after any registrations, conventions
  and activations, whether these succeed, fail, or stop midway.
-/

namespace RowScope

/-- Distinct names in ascending order ascend strictly. -/
theorem pairwise_lt_mergeSort {names : List String} (distinct : names.Nodup) :
    (names.mergeSort fun a b => decide (a ≤ b)).Pairwise (· < ·) := by
  have ascending : (names.mergeSort fun a b => decide (a ≤ b)).Pairwise (· ≤ ·) := by
    have sorted := @List.pairwise_mergeSort String (fun a b => decide (a ≤ b))
      (fun a b c => by simpa using String.le_trans)
      (fun a b => by simpa using String.le_total a b) names
    simpa using sorted
  have apart : (names.mergeSort fun a b => decide (a ≤ b)).Nodup :=
    (List.mergeSort_perm names _).nodup_iff.2 distinct
  exact (ascending.and apart).imp fun ⟨le, ne⟩ => lt_of_le_of_ne le ne

theorem mem_mergeSort_iff {names : List String} {name : String} :
    name ∈ names.mergeSort (fun a b => decide (a ≤ b)) ↔ name ∈ names :=
  (List.mergeSort_perm names _).mem_iff

/-! ## One index -/

namespace Dict

variable {index : Dict (List Definition)} {keyOf : Definition → String} {ds : List Definition}

theorem Groups.nodup (groups : index.Groups keyOf ds) (distinct : ds.Nodup) :
    (index.entries.flatMap fun e => e.2).Nodup := by
  have grouped : ∀ e ∈ index.entries, e.2 = ds.filter fun d => keyOf d = e.1 :=
    fun e member => groups.eq_filter (Dict.mem_entries_iff.1 member)
  rw [List.nodup_flatMap]
  constructor
  · intro e member
    rw [grouped e member]
    exact distinct.filter _
  · -- entries with different keys have no definition in common
    have keys : index.entries.Pairwise fun e e' => e.1 ≠ e'.1 := List.pairwise_map.1 index.nodup
    refine keys.imp_of_mem fun {e e'} member member' apart => ?_
    intro d (inFirst : d ∈ e.2) (inSecond : d ∈ e'.2)
    rw [grouped e member, List.mem_filter, decide_eq_true_iff] at inFirst
    rw [grouped e' member', List.mem_filter, decide_eq_true_iff] at inSecond
    exact apart (inFirst.2.symm.trans inSecond.2)

/-- An index holds every definition once. -/
theorem Groups.perm (groups : index.Groups keyOf ds) (distinct : ds.Nodup) :
    (index.entries.flatMap fun e => e.2).Perm ds :=
  (List.perm_ext_iff_of_nodup (groups.nodup distinct) distinct).2 fun _ => groups.mem_iff

end Dict

/-! ## Both indexes -/

namespace Registry

/-- What holds of the two indexes of a registry. -/
structure Indexed (r : Registry) : Prop where
  /-- No two definitions share entity type and name. -/
  distinct : r.definitions.Pairwise fun d d' => ¬ (d.entity = d'.entity ∧ d.name = d'.name)
  /-- Both indexes hold the same definitions, each once. -/
  same : (r.byName.entries.flatMap fun e => e.2).Perm r.definitions
  onEntity : ∀ entity d, d ∈ r.filtersFor entity ↔ d ∈ r.definitions ∧ d.entity = entity
  underName : ∀ name d, d ∈ r.named name ↔ d ∈ r.definitions ∧ d.name = name
  lookup : ∀ entity name d,
    r.lookup entity name = .ok d ↔ d ∈ r.filtersFor entity ∧ d ∈ r.named name
  contains : ∀ name, r.contains name = true ↔ r.named name ≠ []
  hasFilters : ∀ entity, r.hasFilters entity = true ↔ r.filtersFor entity ≠ []
  /-- The ordinals are the numbers below the number of definitions. -/
  ordinals : (r.definitions.map Definition.ordinal).Perm (List.range r.size)
  /-- As many definitions are held as were ever given an ordinal. -/
  complete : r.nextOrdinal = r.size
  ascendingOnEntity : ∀ entity,
    (r.filtersFor entity).Pairwise fun d d' => d.ordinal < d'.ordinal
  ascendingUnderName : ∀ name, (r.named name).Pairwise fun d d' => d.ordinal < d'.ordinal
  sortedNames : r.filterNames.Pairwise (· < ·)
  mem_filterNames : ∀ name, name ∈ r.filterNames ↔ ∃ d ∈ r.definitions, d.name = name
  /-- Every template is resolved against the schema of its entity type and its own
  parameters. -/
  resolved : ∀ d ∈ r.definitions, ∃ schema, r.catalog.schema? d.entity = some schema ∧
    Template.resolve schema d.parameters d.template.expr = .ok d.template

section Records

variable {r : Registry} {ds : List Definition}

theorem Records.ascending (records : r.Records ds) :
    ds.Pairwise fun d d' => d.ordinal < d'.ordinal := by
  have range : (ds.map Definition.ordinal).Pairwise (· < ·) := by
    rw [records.ordinals]
    exact List.pairwise_lt_range
  exact List.pairwise_map.1 range

theorem Records.nodup (records : r.Records ds) : ds.Nodup := by
  have range : (ds.map Definition.ordinal).Nodup := by
    rw [records.ordinals]
    exact List.nodup_range
  exact range.of_map

theorem Records.definitions_perm (records : r.Records ds) : r.definitions.Perm ds :=
  records.groups_byEntity.perm records.nodup

theorem Records.size_eq (records : r.Records ds) : r.size = r.nextOrdinal := by
  have counted : ds.length = r.nextOrdinal := by
    rw [← List.length_map (f := Definition.ordinal), records.ordinals, List.length_range]
  rw [size, records.definitions_perm.length_eq, counted]

/-- A definition is found under its entity type and its name. -/
theorem Records.lookup_eq_ok_iff (records : r.Records ds) {entity name : String}
    {d : Definition} :
    r.lookup entity name = .ok d ↔ d ∈ ds ∧ d.entity = entity ∧ d.name = name := by
  constructor
  · exact records.mem_of_lookup
  · rintro ⟨member, onEntity, underName⟩
    have filed := records.mem_filtersFor.2 ⟨member, onEntity⟩
    cases found : r.find? entity name with
    | none =>
      have passed := List.find?_eq_none.1 found d filed
      exact absurd underName (by simpa using passed)
    | some d' =>
      have looked : r.lookup entity name = .ok d' := by rw [Registry.lookup, found]
      obtain ⟨member', onEntity', underName'⟩ := records.mem_of_lookup looked
      rw [looked, records.eq_of_key member' member (onEntity'.trans onEntity.symm)
        (underName'.trans underName.symm)]

theorem Records.contains_eq_true_iff (records : r.Records ds) {name : String} :
    r.contains name = true ↔ r.named name ≠ [] := by
  rw [records.contains_iff]
  constructor
  · rintro ⟨d, member, underName⟩ nothing
    have filed := records.mem_named.2 ⟨member, underName⟩
    rw [nothing] at filed
    cases filed
  · intro something
    obtain ⟨d, filed⟩ := List.exists_mem_of_ne_nil _ something
    exact ⟨d, records.mem_named.1 filed⟩

theorem hasFilters_eq_true_iff (r : Registry) (entity : String) :
    r.hasFilters entity = true ↔ r.filtersFor entity ≠ [] := by
  rw [hasFilters, filtersFor]
  cases r.byEntity.get? entity with
  | none => simp
  | some fs => simp

theorem Records.mem_filterNames_iff (records : r.Records ds) {name : String} :
    name ∈ r.filterNames ↔ ∃ d ∈ ds, d.name = name := by
  rw [filterNames, mem_mergeSort_iff, ← records.contains_iff, Registry.contains, Dict.contains,
    ← not_iff_not, ← Dict.get?_eq_none_iff]
  simp

/-- Everything about the indexes follows from the list behind them. -/
theorem indexed_of_records (records : r.Records ds) : r.Indexed where
  distinct := by
    have apart : ds.Pairwise fun d d' => ¬ (d.entity = d'.entity ∧ d.name = d'.name) :=
      records.distinct.imp fun unlike ⟨entity, name⟩ => unlike entity name
    refine (records.definitions_perm.pairwise_iff ?_).2 apart
    rintro d d' unlike ⟨entity, name⟩
    exact unlike ⟨entity.symm, name.symm⟩
  same := (records.groups_byName.perm records.nodup).trans records.definitions_perm.symm
  onEntity entity d := by rw [records.mem_filtersFor, records.mem_definitions]
  underName name d := by rw [records.mem_named, records.mem_definitions]
  lookup entity name d := by
    rw [records.lookup_eq_ok_iff, records.mem_filtersFor, records.mem_named]
    tauto
  contains _ := records.contains_eq_true_iff
  hasFilters := r.hasFilters_eq_true_iff
  ordinals := by
    rw [records.size_eq, ← records.ordinals]
    exact records.definitions_perm.map Definition.ordinal
  complete := records.size_eq.symm
  ascendingOnEntity entity := by
    rw [records.onEntity]
    exact records.ascending.filter _
  ascendingUnderName name := by
    rw [records.underName]
    exact records.ascending.filter _
  sortedNames := pairwise_lt_mergeSort r.byName.nodup
  mem_filterNames name := by
    rw [records.mem_filterNames_iff]
    simp only [records.mem_definitions]
  resolved d member := records.resolved d (records.mem_definitions.1 member)

end Records

/-- **The indexes stay in step.**  After any registrations, conventions and activations,
successful or not, both indexes hold the same definitions in the order of registration,
every look-up agrees with them, and every template is resolved. -/
theorem Reachable.indexed {r : Registry} (reachable : r.Reachable) : r.Indexed := by
  obtain ⟨ds, records⟩ := reachable.exists_records
  exact indexed_of_records records

/-! A registry after a convention that stopped at its second entity type, a template that
was refused, and a registration after the freeze. -/

/-- The posts of a tenant, its comments, and the later posts. -/
def contested : Registry :=
  let byTenant : Expr := .compare .eq (.field "tenant") (.param "id")
  let start := Registry.empty .blog
  let comments := (start.register "Comment" "tenant" [⟨"id", .int, none⟩] byTenant).result.2
  let stopped := (comments.registerConvention "tenant" [⟨"id", .int, none⟩] byTenant).result.2
  let refused := (stopped.register "Post" "draft" [] (.field "draft")).result.2
  let later := (refused.register "Post" "later" []
    (.compare .gt (.field "id") (.literal (.int 1)))).result.2
  (later.activate.result.2.register "Comment" "later" []
    (.compare .gt (.field "id") (.literal (.int 1)))).result.2

theorem Reachable.indexed_contested :
    contested.Reachable ∧ contested.Indexed ∧
      contested.definitions.map (fun d => (d.entity, d.name, d.ordinal)) =
        [("Comment", "tenant", 0), ("Post", "tenant", 1), ("Post", "later", 2)] := by
  have reachable : contested.Reachable := by
    refine .register _ _ _ _ (.activate (.register _ _ _ _ (.register _ _ _ _ ?_)))
    exact .convention _ _ _ (.register _ _ _ _ (.empty .blog))
  exact ⟨reachable, reachable.indexed, by decide⟩

end Registry

end RowScope
