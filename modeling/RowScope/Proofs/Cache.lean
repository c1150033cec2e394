import RowScope.Cache

/-!
# What a cache can hand out

A cache never makes a predicate up: whatever property the entries have, they have
it after every operation, provided that what comes in has it (`Cache.All`).  This
says nothing about which entries there are, so it does not depend on capacity,
shards or the order of use.

`Cache.Created` says what a cache is like when it is made.
`Cache.result_getOrInsert` says what a request is answered with: the predicate of
the entry of its key, or else what its compilation comes to.
-/

namespace RowScope.Cache

/-- Every entry has a property. -/
def All (P : Key → Predicate → Prop) (c : Cache) : Prop := ∀ e ∈ c.entries, P e.key e.predicate

variable {P : Key → Predicate → Prop} {c : Cache} {key : Key} {predicate : Predicate}

theorem All.mono {Q : Key → Predicate → Prop} (all : c.All P)
    (weaker : ∀ key p, P key p → Q key p) : c.All Q :=
  fun e member => weaker _ _ (all e member)

/-- An empty cache of a site, with the shards and the room that were asked for. -/
structure Created (site : Site) (capacity shards : UInt64) (c : Cache) : Prop where
  route : c.route = site.route
  shardCount : c.shardCount = Settings.clamp 1 (max capacity 1) shards
  shardCapacity : c.shardCapacity = divideUp (max capacity 1) c.shardCount
  entries : c.entries = []
  hits : c.hits = 0
  misses : c.misses = 0
  evictions : c.evictions = 0

section Created

variable {site : Site} {capacity shards : UInt64}

theorem created_of_create (created : create site capacity shards = .ok c) :
    c.Created site capacity shards := by
  rw [create, allocate] at created
  split at created
  · cases created
    exact ⟨rfl, rfl, rfl, rfl, rfl, rfl, rfl⟩
  · cases created

theorem Created.all (created : c.Created site capacity shards) : c.All P := by
  intro e member
  rw [created.entries] at member
  cases member

end Created

/-! Caches are made at a site that is large enough for them. -/

/-- A site for a few predicates. -/
def Site.small : Site := ⟨fun _ => 0, .ofSize 65536⟩

/-- A cache for one predicate. -/
def single : Cache := (create .small 1 1).toOption.get (by decide)

theorem all_clear (c : Cache) : c.clear.All P := fun _ member => by cases member

theorem All.of_find? (all : c.All P) {e : Entry} (found : c.find? key = some e) :
    P key e.predicate := by
  have named : e.key = key := by simpa using List.find?_some found
  exact named ▸ all e (List.mem_of_find?_eq_some found)

theorem mem_promote {entry e : Entry} {entries : List Entry}
    (member : e ∈ promote entry entries) : e = entry ∨ e ∈ entries := by
  rcases List.mem_cons.1 member with first | rest
  · exact .inl first
  · exact .inr (List.mem_filter.1 rest).1

theorem All.promote (all : c.All P) {e : Entry} (found : c.find? key = some e) :
    ∀ e' ∈ Cache.promote e c.entries, P e'.key e'.predicate := by
  intro e' member
  rcases mem_promote member with rfl | old
  · exact all _ (List.mem_of_find?_eq_some found)
  · exact all _ old

theorem sublist_of_takeLast? {p : Entry → Bool} {entries rest : List Entry} {last : Entry}
    (taken : takeLast? p entries = some (last, rest)) : rest.Sublist entries := by
  induction entries generalizing rest last with
  | nil => cases taken
  | cons e es ih =>
    rw [takeLast?] at taken
    split at taken
    · next later =>
      cases taken
      exact (ih later).cons_cons e
    · split at taken
      · cases taken
        exact List.sublist_cons_self _ _
      · cases taken

/-! ## Operations -/

theorem All.get (all : c.All P) (key : Key) : (c.get key).result.2.All P := by
  rw [Cache.get]
  split
  · next e found => exact all.promote found
  · exact all

theorem result_get (c : Cache) (key : Key) :
    (c.get key).result.1 = (c.find? key).map Entry.predicate := by
  rw [get]
  split
  · next e found => rw [found]; rfl
  · next missing => rw [missing]; rfl

/-- Looking up moves entries but neither adds nor drops one. -/
theorem find?_get_of_none (missing : c.find? key = none) :
    (c.get key).result.2.find? key = none := by
  rw [get, missing]
  exact missing

theorem All.push (all : c.All P) (entry : Entry) (new : P entry.key entry.predicate) :
    (c.push entry).result.All P := by
  rw [Cache.push]
  split
  · next last rest taken =>
    intro e member
    rcases List.mem_cons.1 member with rfl | old
    · exact new
    · split at taken
      · exact all e ((sublist_of_takeLast? taken).subset old)
      · cases taken
  · intro e member
    rcases List.mem_cons.1 member with rfl | old
    · exact new
    · exact all e old

theorem All.insert (all : c.All P) (new : P key predicate) :
    (c.insert key predicate).result.2.All P := by
  rw [Cache.insert]
  split
  · next e found => exact all.promote found
  · exact all.push ⟨key, predicate⟩ new

theorem result_insert_of_none (missing : c.find? key = none) (predicate : Predicate) :
    (c.insert key predicate).result.1 = predicate := by
  rw [insert, missing]
  rfl

/-- A request is answered by the entry of its key, or else by its compilation. -/
theorem result_getOrInsert (c : Cache) (key : Key)
    (compile : Logged (Except FilterError Predicate)) :
    (c.getOrInsert key compile).result.1 =
      match c.find? key with
      | some e => .ok e.predicate
      | none => compile.result := by
  have answer := result_get c key
  rw [getOrInsert, Logged.result_bind]
  cases found : c.find? key with
  | some e =>
    rw [found] at answer
    generalize (c.get key).result = looked at answer ⊢
    obtain ⟨answered, c'⟩ := looked
    subst answer
    rfl
  | none =>
    have missing := find?_get_of_none found
    rw [found] at answer
    generalize (c.get key).result = looked at answer missing ⊢
    obtain ⟨answered, c'⟩ := looked
    subst answer
    cases made : compile.result with
    | error error => simp [made]
    | ok p =>
      have kept := result_insert_of_none missing p
      simpa [made] using kept

/-- A request leaves only entries with a property, if its compilation does. -/
theorem All.getOrInsert (all : c.All P) (key : Key)
    {compile : Logged (Except FilterError Predicate)}
    (new : ∀ p, compile.result = .ok p → P key p) :
    (c.getOrInsert key compile).result.2.All P := by
  have looked := all.get key
  rw [Cache.getOrInsert, Logged.result_bind]
  generalize (c.get key).result = outcome at looked ⊢
  rcases outcome with ⟨_ | p, c'⟩
  · rw [Logged.result_bind]
    generalize made : compile.result = result at new ⊢
    cases result with
    | error error => exact looked
    | ok p => exact looked.insert (new p rfl)
  · exact looked

end RowScope.Cache
