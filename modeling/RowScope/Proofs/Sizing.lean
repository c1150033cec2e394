import RowScope.Engine
import RowScope.Proofs.Recency

/-!
# How much room a cache has

The capacity that is asked for is divided by the shards and rounded up, so there is room
for at least as many entries and for fewer than one more per shard.  All of it is allocated
when the cache is made.  So there may be no cache, and if there is one, its room is a word.

* `Settings.toNat_normalized`: the sizes that settings are brought to; once is enough
  (`Settings.normalized_normalized`), and a cache does no more (`Cache.create_normalized`).
* `Memory.Holds`: all blocks of the shards are granted.  This is so exactly if the cache can
  be made (`Cache.exists_allocate_iff`).
* `Cache.Created.capacity_bounds`: the capacity that a new cache reports is bounded from both
  sides, so none can be made if the capacity asked for exceeds the largest multiple of the
  shards that a word holds (`Cache.Created.le_multiple`).
* `Cache.Tidy.performAll`: no use of a cache takes more than its capacity.
* `Cache.sizes_exact` puts these together.  There is no cache of the largest capacity in two
  shards, at any site (`Cache.create_largest_fails`).
-/

namespace RowScope

open Number

/-! ## Settings -/

namespace Settings

variable (settings : Settings)

theorem toNat_normalized :
    settings.normalized.capacity.toNat = max settings.capacity.toNat 1 ∧
      settings.normalized.shards.toNat =
        max 1 (min settings.shards.toNat (max settings.capacity.toNat 1)) := by
  unfold normalized clamp
  rw [Cache.toNat_max, Cache.toNat_max, Cache.toNat_min, Cache.toNat_max]
  exact ⟨rfl, rfl⟩

/-- Sizes that were brought into their range are in it. -/
theorem normalized_normalized : settings.normalized.normalized = settings.normalized := by
  obtain ⟨capacity, shards⟩ := settings.toNat_normalized
  obtain ⟨capacity', shards'⟩ := settings.normalized.toNat_normalized
  have sameCapacity : settings.normalized.normalized.capacity = settings.normalized.capacity := by
    rw [← UInt64.toNat_inj]
    omega
  have sameShards : settings.normalized.normalized.shards = settings.normalized.shards := by
    rw [← UInt64.toNat_inj]
    omega
  exact congrArg₂ (fun capacity shards =>
    (⟨capacity, shards, settings.activateOnFirstSession⟩ : Settings)) sameCapacity sameShards

end Settings

/-! ## Memory -/

namespace Memory

variable {m : Memory} {room count used : Nat}

/-- All blocks of so many shards, with room for `room` entries each, are granted, and none
of them is too large. -/
structure Holds (m : Memory) (count room : Nat) : Prop where
  shards : count * m.shardBytes < signedBound ∧ m.grants 0 (count * m.shardBytes) = true
  tables : ∀ i < count, m.tableBytes room < signedBound ∧
    m.grants (count * m.shardBytes + i * m.tableBytes room) (m.tableBytes room) = true

theorem exists_allocateTables_iff : (∃ used', m.allocateTables room count used = .ok used') ↔
    ∀ i < count, m.tableBytes room < signedBound ∧
      m.grants (used + i * m.tableBytes room) (m.tableBytes room) = true := by
  induction count generalizing used with
  | zero => exact ⟨fun _ i bound => absurd bound (Nat.not_lt_zero i), fun _ => ⟨used, rfl⟩⟩
  | succ count ih =>
    have first : (∃ used', m.allocateTables room (count + 1) used = .ok used') ↔
        (m.tableBytes room < signedBound ∧ m.grants used (m.tableBytes room) = true) ∧
          ∃ used', m.allocateTables room count (used + m.tableBytes room) = .ok used' := by
      simp only [allocateTables, bind_eq_ok_iff, allocate_eq_ok_iff]
      grind
    have next : ∀ i, used + m.tableBytes room + i * m.tableBytes room =
        used + (i + 1) * m.tableBytes room := fun i => by rw [Nat.succ_mul]; omega
    rw [first, ih, Nat.forall_lt_succ_left, Nat.zero_mul, Nat.add_zero]
    simp only [next]

theorem exists_allocateShards_iff :
    (∃ used, m.allocateShards count room = .ok used) ↔ m.Holds count room := by
  have shards : (∃ used, m.allocateShards count room = .ok used) ↔
      (count * m.shardBytes < signedBound ∧ m.grants 0 (count * m.shardBytes) = true) ∧
        ∃ used, m.allocateTables room count (count * m.shardBytes) = .ok used := by
    simp only [allocateShards, bind_eq_ok_iff, allocate_eq_ok_iff, Nat.zero_add]
    grind
  rw [shards, exists_allocateTables_iff]
  exact ⟨fun ⟨shards, tables⟩ => ⟨shards, tables⟩, fun ⟨shards, tables⟩ => ⟨shards, tables⟩⟩

/-- A table with as many entries as there are distances is too large for any memory. -/
theorem allocateShards_of_large (large : signedBound ≤ room) (some : 0 < count) :
    m.allocateShards count room = .error .tooLarge ∨
      m.allocateShards count room = .error .refused ∧
        m.grants 0 (count * m.shardBytes) = false := by
  have table : ∀ used, m.allocate used (m.tableBytes room) = .error .tooLarge := fun used =>
    if_pos (Nat.le_trans large (m.le_tableBytes room))
  obtain ⟨count, rfl⟩ := Nat.exists_eq_succ_of_ne_zero (Nat.ne_of_gt some)
  rw [allocateShards]
  generalize (count + 1) * m.shardBytes = block
  rw [allocate]
  split
  · exact .inl rfl
  · split
    · refine .inl ?_
      change (do let used ← m.allocate _ _; m.allocateTables room count used) = _
      rw [table]
      rfl
    · next refused => exact .inr ⟨rfl, Bool.eq_false_iff.2 refused⟩

end Memory

namespace Cache

variable {c : Cache}

/-! ## Creation -/

/-- A quotient that was rounded up is at least the exact one, and less than one more. -/
theorem divideUp_bounds {n d : UInt64} (positive : 0 < d.toNat) :
    n.toNat ≤ (divideUp n d).toNat * d.toNat ∧
      (divideUp n d).toNat * d.toNat < n.toNat + d.toNat := by
  have parts := Nat.div_add_mod' n.toNat d.toNat
  have remainder := Nat.mod_lt n.toNat positive
  rw [toNat_divideUp positive, Nat.add_mul]
  split
  · next none => omega
  · next some => omega

section Create

variable {site : Site} {capacity shards : UInt64}

/-- A cache brings its sizes into the range that settings bring theirs into. -/
theorem create_normalized (site : Site) (settings : Settings) :
    create site settings.normalized.capacity settings.normalized.shards =
      create site settings.capacity settings.shards := by
  have capacity := congrArg Settings.capacity settings.normalized_normalized
  have shards := congrArg Settings.shards settings.normalized_normalized
  unfold Settings.normalized at capacity shards ⊢
  dsimp only at capacity shards ⊢
  rw [capacity] at shards
  rw [create, create, capacity, shards]

variable {shardCount shardCapacity : UInt64}

theorem allocate_eq_error_iff {failure : Memory.Failure} :
    allocate site shardCount shardCapacity = .error failure ↔
      site.memory.allocateShards shardCount.toNat shardCapacity.toNat = .error failure := by
  rw [allocate]
  split
  · next allocated => simp [allocated]
  · next failed => simp [failed]

theorem exists_allocate_iff : (∃ c, allocate site shardCount shardCapacity = .ok c) ↔
    site.memory.Holds shardCount.toNat shardCapacity.toNat := by
  rw [← Memory.exists_allocateShards_iff, allocate]
  split
  · next used allocated => exact ⟨fun _ => ⟨used, allocated⟩, fun _ => ⟨_, rfl⟩⟩
  · next failed => simp [failed]

theorem Created.capacity_bounds (created : c.Created site capacity shards) :
    max capacity.toNat 1 ≤ c.capacity.toNat ∧
      c.capacity.toNat < max capacity.toNat 1 + c.shardCount.toNat := by
  have bounds := divideUp_bounds (n := max capacity 1) created.tidy.shards
  rw [toNat_max, ← created.shardCapacity, ← c.toNat_capacity] at bounds
  exact bounds

/-- The capacity that is asked for is not above the largest multiple of the shards that a
word holds. -/
theorem Created.le_multiple (created : c.Created site capacity shards) :
    max capacity.toNat 1 ≤ (wordBound - 1) / c.shardCount.toNat * c.shardCount.toNat := by
  obtain ⟨least, -⟩ := created.capacity_bounds
  have fits := c.fits
  rw [c.toNat_capacity] at least
  have below : c.shardCapacity.toNat ≤ (wordBound - 1) / c.shardCount.toNat :=
    (Nat.le_div_iff_mul_le created.tidy.shards).2 (by omega)
  exact Nat.le_trans least (Nat.mul_le_mul_right _ below)

end Create

/-- Every shard has room for at least one entry. -/
theorem Tidy.shardCount_le_capacity (tidy : c.Tidy) : c.shardCount.toNat ≤ c.capacity.toNat := by
  rw [c.toNat_capacity]
  exact Nat.le_mul_of_pos_left c.shardCount.toNat tidy.capacity

/-! ## Use -/

theorem Pushed.capacity {entry : Entry} {c' : Cache} (pushed : c.Pushed entry c') :
    c'.capacity = c.capacity := by
  obtain ⟨count, capacity⟩ := pushed.shape
  unfold Cache.capacity
  rw [count, capacity]

/-- An operation leaves a cache tidy and its shards as large as they are. -/
theorem Tidy.perform (tidy : c.Tidy) (op : Operation) :
    (c.perform op).2.Tidy ∧ (c.perform op).2.capacity = c.capacity := by
  have promoted : ∀ {key e}, c.find? key = some e → ∀ hits,
      { c with entries := promote e c.entries, hits }.Tidy := fun found hits =>
    (tidy.of_perm (promote_perm tidy.distinct found)).recount hits c.misses c.evictions
  have missed := tidy.recount c.hits (c.misses + 1) c.evictions
  cases op with
  | get key =>
    rw [Cache.perform, get_eq]
    cases found : c.find? key with
    | some e => exact ⟨promoted found (c.hits + 1), rfl⟩
    | none => exact ⟨missed, rfl⟩
  | insert key p =>
    rw [Cache.perform, insert_eq]
    cases found : c.find? key with
    | some e => exact ⟨promoted found c.hits, rfl⟩
    | none =>
      have pushed := pushed_push tidy.capacity ⟨key, p⟩
      exact ⟨tidy.pushed pushed found, pushed.capacity⟩
  | getOrInsert key compile =>
    rw [Cache.perform, getOrInsert_eq]
    cases found : c.find? key with
    | some e => exact ⟨promoted found (c.hits + 1), rfl⟩
    | none =>
      dsimp only
      cases compile.result with
      | error error => exact ⟨missed, rfl⟩
      | ok p =>
        have pushed := pushed_push missed.capacity ⟨key, p⟩
        exact ⟨missed.pushed pushed found, pushed.capacity.trans rfl⟩
  | clear => exact ⟨tidy.clear, rfl⟩

/-- **No use of a cache takes more than its capacity.** -/
theorem Tidy.performAll (tidy : c.Tidy) (log : Log) (operations : List Operation) :
    (Cache.performAll (c, log) operations).1.Tidy ∧
      (Cache.performAll (c, log) operations).1.capacity = c.capacity := by
  induction operations generalizing c log with
  | nil => exact ⟨tidy, rfl⟩
  | cons op operations ih =>
    obtain ⟨kept, same⟩ := tidy.perform op
    obtain ⟨kept', same'⟩ := ih kept ((op, (c.perform op).1) :: log)
    exact ⟨kept', same'.trans same⟩

/-! ## Engines -/

/-- **The sizes of a cache are safe if it can be made.**  Let `c` be the capacity that
settings ask for and `s` the number of shards, each brought into its range.

* Normal settings have these sizes, and normalizing them again changes nothing.
* The cache of an engine is made with these sizes as they are, or fails to be made.
* A cache that is made has `s` shards, for `c` divided by `s` and rounded up.  What they have
  room for together is a word, and it is the capacity that the cache reports.  It is at least
  `c` and `s`, and less than `c + s`; after any operations the cache holds no more than that.
* The cache can be made exactly if the memory holds its shards.
* No memory does if `c` is above the largest multiple of `s` that a word holds. -/
theorem sizes_exact (id : Nat) (site : Site) (catalog : Catalog) (settings : Settings) :
    let c := max settings.capacity.toNat 1
    let s := max 1 (min settings.shards.toNat c)
    let sizes := settings.normalized
    let created := create site sizes.capacity sizes.shards
    (sizes.capacity.toNat = c ∧ sizes.shards.toNat = s ∧ sizes.normalized = sizes) ∧
    (Engine.create id site catalog settings).map (fun made => made.result.cache) = created ∧
    (∀ cache, created = .ok cache →
      (cache.shardCount = sizes.shards ∧
        cache.shardCapacity = divideUp sizes.capacity sizes.shards) ∧
      cache.shardCapacity.toNat * s < wordBound ∧
      cache.capacity.toNat = cache.shardCapacity.toNat * s ∧
      c ≤ cache.capacity.toNat ∧ cache.capacity.toNat < c + s ∧ s ≤ cache.capacity.toNat ∧
      ∀ operations, (performAll (cache, []) operations).1.size ≤ cache.capacity.toNat) ∧
    ((∃ cache, created = .ok cache) ↔
      site.memory.Holds s (divideUp sizes.capacity sizes.shards).toNat) ∧
    ((wordBound - 1) / s * s < c → ∃ failure, created = .error failure) := by
  intro c s sizes created
  have raw : created = create site settings.capacity settings.shards :=
    create_normalized site settings
  have held : sizes.shards.toNat = s := settings.toNat_normalized.2
  have new : ∀ cache, created = .ok cache →
      cache.Created site settings.capacity settings.shards :=
    fun cache made => created_of_create (raw.symm.trans made)
  have count : ∀ cache, created = .ok cache → cache.shardCount.toNat = s :=
    fun cache made => (new cache made).toNat_shardCount
  refine ⟨⟨settings.toNat_normalized.1, held, settings.normalized_normalized⟩, ?_, ?_, ?_, ?_⟩
  · rw [Engine.create]
    cases made : create site settings.normalized.capacity settings.normalized.shards with
    | ok cache => exact made.symm
    | error failure => exact made.symm
  · intro cache made
    have tidy := (new cache made).tidy
    obtain ⟨least, most⟩ := (new cache made).capacity_bounds
    have fits := cache.fits
    have reported := cache.toNat_capacity
    have each := tidy.shardCount_le_capacity
    rw [count cache made] at most fits reported each
    refine ⟨⟨(new cache made).shardCount, ?_⟩, fits, reported, least, most, each, ?_⟩
    · rw [(new cache made).shardCapacity, (new cache made).shardCount]
      rfl
    · intro operations
      obtain ⟨used, same⟩ := tidy.performAll [] operations
      rw [← same]
      exact used.size_le_capacity
  · rw [raw, ← held]
    exact exists_allocate_iff
  · intro above
    cases made : created with
    | error failure => exact ⟨failure, rfl⟩
    | ok cache =>
      have bound := (new cache made).le_multiple
      rw [count cache made] at bound
      exact absurd bound (Nat.not_le.2 above)

/-! Seven predicates in three shards are rounded up to nine. -/

theorem sizes_exact_seven : ∃ cache, create .small 7 3 = .ok cache ∧
    cache.shardCapacity = 3 ∧ 7 ≤ cache.capacity.toNat ∧ cache.capacity.toNat < 7 + 3 ∧
      (performAll (cache, []) [.insert ⟨"Post", "tenant", "1"⟩ (.conj [])]).1.size ≤
        cache.capacity.toNat := by
  obtain ⟨-, -, made, -, -⟩ := sizes_exact 0 .small default ⟨7, 3, true⟩
  obtain ⟨cache, created⟩ : ∃ cache, create .small 7 3 = .ok cache := ⟨_, rfl⟩
  obtain ⟨⟨-, room⟩, -, -, least, most, -, used⟩ := made cache created
  exact ⟨cache, created, room.trans (by decide), least, most, used _⟩

/-! The largest capacity in two shards takes more than any memory has. -/

/-- **There may be no cache for normal settings.**  The first table is too large, unless not
even the two shards are granted. -/
theorem create_largest_fails :
    Settings.normalized ⟨18446744073709551615, 2, true⟩ = ⟨18446744073709551615, 2, true⟩ ∧
      ∀ site : Site, create site 18446744073709551615 2 = .error .tooLarge ∨
        create site 18446744073709551615 2 = .error .refused ∧
          site.memory.grants 0 (2 * site.memory.shardBytes) = false := by
  refine ⟨by decide, fun site => ?_⟩
  rw [create, allocate_eq_error_iff, allocate_eq_error_iff]
  exact Memory.allocateShards_of_large (by decide) (by decide)

end Cache

end RowScope
