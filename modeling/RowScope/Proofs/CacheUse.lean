import RowScope.Proofs.Cache
import Mathlib.Data.List.Nodup
import Mathlib.Data.List.Perm.Basic

/-!
# What the use of a cache does to it

The entries of a cache stand in one list, the most recently used first.

* `Cache.get_eq`, `Cache.insert_eq` and `Cache.getOrInsert_eq` say what the
  operations come to: an entry that is there is promoted, one that is not is
  pushed.
* `Cache.Pushed` is what pushing can do: there is room in the shard, or the last
  entry of the shard goes.
* `Cache.Tidy`: keys are distinct and no shard holds more than it may.  Promoting
  and pushing keep a cache tidy, and the size of a tidy cache is bounded by that of
  its shards (`Tidy.size_le`), which is the capacity that it reports
  (`Tidy.size_le_capacity`).
-/

namespace RowScope.Cache

variable {c c' : Cache} {key : Key} {e entry : Entry}

/-- The keys of the entries, the most recently used first. -/
def keys (c : Cache) : List Key := c.entries.map Entry.key

theorem find?_eq_none_iff : c.find? key = none ↔ key ∉ c.keys := by
  rw [find?, List.find?_eq_none, keys, List.mem_map]
  simp

theorem key_of_find? (found : c.find? key = some e) : e.key = key := by
  simpa using List.find?_some found

theorem exists_find? (held : key ∈ c.keys) : ∃ e, c.find? key = some e := by
  rw [← Option.ne_none_iff_exists']
  exact fun missing => find?_eq_none_iff.1 missing held

theorem mem_keys_of_find? (found : c.find? key = some e) : key ∈ c.keys := by
  rw [← key_of_find? found]
  exact List.mem_map_of_mem (List.mem_of_find?_eq_some found)

/-- Distinct keys tell entries apart. -/
theorem find?_of_mem (distinct : c.keys.Nodup) (member : e ∈ c.entries) :
    c.find? e.key = some e := by
  obtain ⟨e', found⟩ := exists_find? (List.mem_map_of_mem member : e.key ∈ c.keys)
  have member' := List.mem_of_find?_eq_some found
  rw [found, List.inj_on_of_nodup_map distinct member' member (key_of_find? found)]

/-! ## Promoting an entry -/

theorem keys_promote (entry : Entry) (entries : List Entry) :
    (promote entry entries).map Entry.key =
      entry.key :: (entries.map Entry.key).filter fun key => key ≠ entry.key := by
  rw [promote, List.map_cons, List.filter_map]
  rfl

/-- To promote an entry neither adds nor drops one. -/
theorem promote_perm (distinct : c.keys.Nodup) (found : c.find? key = some e) :
    (promote e c.entries).Perm c.entries := by
  have promoted : ((promote e c.entries).map Entry.key).Nodup := by
    rw [keys_promote, List.nodup_cons]
    exact ⟨by simp, distinct.filter _⟩
  refine (List.perm_ext_iff_of_nodup promoted.of_map distinct.of_map).2 fun e' => ?_
  constructor
  · intro member
    rcases mem_promote member with rfl | old
    · exact List.mem_of_find?_eq_some found
    · exact old
  · intro member
    by_cases same : e'.key = e.key
    · have stands := find?_of_mem distinct member
      rw [same, key_of_find? found, found] at stands
      cases stands
      exact List.mem_cons_self
    · exact List.mem_cons_of_mem _ (List.mem_filter.2 ⟨member, by simpa using same⟩)

/-! ## Pushing an entry -/

theorem takeLast?_eq_none_iff {p : Entry → Bool} {entries : List Entry} :
    takeLast? p entries = none ↔ ∀ e ∈ entries, p e = false := by
  induction entries with
  | nil => simp [takeLast?]
  | cons e es ih =>
    rw [List.forall_mem_cons, ← ih, takeLast?]
    cases takeLast? p es with
    | none => simp
    | some _ => simp

/-- What is taken out is the last entry of its kind. -/
theorem split_of_takeLast? {p : Entry → Bool} {entries rest : List Entry} {last : Entry}
    (taken : takeLast? p entries = some (last, rest)) :
    ∃ newer older, entries = newer ++ last :: older ∧ rest = newer ++ older ∧
      p last = true ∧ ∀ e ∈ older, p e = false := by
  induction entries generalizing rest last with
  | nil => cases taken
  | cons e es ih =>
    rw [takeLast?] at taken
    split at taken
    · next later =>
      cases taken
      obtain ⟨newer, older, rfl, rfl, holds, others⟩ := ih later
      exact ⟨e :: newer, older, rfl, rfl, holds, others⟩
    · next none =>
      split at taken
      · next holds =>
        cases taken
        exact ⟨[], es, rfl, rfl, holds, takeLast?_eq_none_iff.1 none⟩
      · cases taken

/-- What can come of pushing an entry. -/
inductive Pushed (c : Cache) (entry : Entry) : Cache → Prop
  | room (room : (c.shardEntries entry.key).length < c.shardCapacity.toNat) :
    Pushed c entry { c with entries := entry :: c.entries }
  /-- A full shard drops its last entry. -/
  | evicted {newer older : List Entry} {last : Entry}
      (full : c.shardCapacity.toNat ≤ (c.shardEntries entry.key).length)
      (split : c.entries = newer ++ last :: older)
      (same : c.shard last.key = c.shard entry.key)
      (others : ∀ e ∈ older, c.shard e.key ≠ c.shard entry.key) :
    Pushed c entry { c with entries := entry :: (newer ++ older), evictions := c.evictions + 1 }

theorem pushed_push (capacity : 0 < c.shardCapacity.toNat) (entry : Entry) :
    c.Pushed entry (c.push entry).result := by
  rw [push]
  cases full : c.isFull entry.key with
  | false =>
    rw [isFull, decide_eq_false_iff_not, Nat.not_le] at full
    exact .room full
  | true =>
    rw [isFull, decide_eq_true_iff] at full
    rw [if_pos rfl]
    cases taken : takeLast? (fun e => c.shard e.key = c.shard entry.key) c.entries with
    | none =>
      -- a shard with room for some entry is full of some entry
      have nothing : c.shardEntries entry.key = [] :=
        List.filter_eq_nil_iff.2 fun e member => by
          simpa using takeLast?_eq_none_iff.1 taken e member
      rw [nothing] at full
      exact absurd full (Nat.not_le.2 capacity)
    | some outcome =>
      obtain ⟨last, rest⟩ := outcome
      obtain ⟨newer, older, split, rfl, same, others⟩ := split_of_takeLast? taken
      exact .evicted full split (by simpa using same) fun e member => by
        simpa using others e member

/-- Pushing counts an entry that goes, and leaves everything else of a cache. -/
theorem Pushed.counted (pushed : c.Pushed entry c') :
    c'.size + c'.evictions = c.size + c.evictions + 1 ∧ c'.hits = c.hits ∧
      c'.misses = c.misses := by
  cases pushed with
  | room room => exact ⟨Nat.add_right_comm c.size 1 c.evictions, rfl, rfl⟩
  | evicted full split same others =>
    refine ⟨?_, rfl, rfl⟩
    rw [size, size, split]
    simp only [List.length_cons, List.length_append]
    omega

theorem Pushed.shape (pushed : c.Pushed entry c') :
    c'.shardCount = c.shardCount ∧ c'.shardCapacity = c.shardCapacity := by
  cases pushed with
  | room room => exact ⟨rfl, rfl⟩
  | evicted full split same others => exact ⟨rfl, rfl⟩

/-! ## Operations -/

theorem get_eq (c : Cache) (key : Key) :
    (c.get key).result =
      match c.find? key with
      | some e =>
        (some e.predicate, { c with entries := promote e c.entries, hits := c.hits + 1 })
      | none => (none, { c with misses := c.misses + 1 }) := by
  rw [get]
  cases c.find? key with
  | some e => rfl
  | none => rfl

theorem insert_eq (c : Cache) (key : Key) (p : Predicate) :
    (c.insert key p).result =
      match c.find? key with
      | some e => (e.predicate, { c with entries := promote e c.entries })
      | none => (p, (c.push ⟨key, p⟩).result) := by
  rw [insert]
  cases c.find? key with
  | some e => rfl
  | none => rfl

theorem getOrInsert_eq (c : Cache) (key : Key)
    (compile : Logged (Except FilterError Predicate)) :
    (c.getOrInsert key compile).result =
      match c.find? key with
      | some e =>
        (.ok e.predicate, { c with entries := promote e c.entries, hits := c.hits + 1 })
      | none =>
        match compile.result with
        | .error error => (.error error, { c with misses := c.misses + 1 })
        | .ok p => (.ok p, ({ c with misses := c.misses + 1 }.push ⟨key, p⟩).result) := by
  rw [getOrInsert, Logged.result_bind, get_eq]
  cases found : c.find? key with
  | some e => rfl
  | none =>
    dsimp only
    rw [Logged.result_bind]
    cases compile.result with
    | error error => rfl
    | ok p =>
      have missing : { c with misses := c.misses + 1 }.find? key = none := found
      dsimp only
      rw [Logged.result_bind, insert_eq, missing]
      rfl

/-! ## Tidy caches -/

/-- Keys are distinct, there are shards with room, and none holds more than it may. -/
structure Tidy (c : Cache) : Prop where
  distinct : c.keys.Nodup
  shards : 0 < c.shardCount.toNat
  capacity : 0 < c.shardCapacity.toNat
  bounded : ∀ shard, (c.entries.filter fun e => c.shard e.key = shard).length ≤
    c.shardCapacity.toNat

/-- The counters do not matter. -/
theorem Tidy.recount (tidy : c.Tidy) (hits misses evictions : Nat) :
    { c with hits, misses, evictions }.Tidy :=
  ⟨tidy.distinct, tidy.shards, tidy.capacity, tidy.bounded⟩

/-- The order of the entries does not matter. -/
theorem Tidy.of_perm (tidy : c.Tidy) {entries : List Entry} (perm : entries.Perm c.entries) :
    { c with entries }.Tidy where
  distinct := (perm.map Entry.key).nodup_iff.2 tidy.distinct
  shards := tidy.shards
  capacity := tidy.capacity
  bounded shard := by
    rw [(perm.filter _).length_eq]
    exact tidy.bounded shard

theorem Tidy.clear (tidy : c.Tidy) : c.clear.Tidy where
  distinct := List.nodup_nil
  shards := tidy.shards
  capacity := tidy.capacity
  bounded _ := Nat.zero_le _

theorem Tidy.pushed (tidy : c.Tidy) (pushed : c.Pushed entry c')
    (missing : c.find? entry.key = none) : c'.Tidy := by
  have new : entry.key ∉ c.keys := find?_eq_none_iff.1 missing
  cases pushed with
  | room room =>
    refine ⟨List.nodup_cons.2 ⟨new, tidy.distinct⟩, tidy.shards, tidy.capacity, ?_⟩
    intro shard
    change ((entry :: c.entries).filter fun e => c.shard e.key = shard).length ≤ _
    rw [List.filter_cons]
    split
    · next same =>
      rw [decide_eq_true_iff] at same
      subst same
      exact room
    · exact tidy.bounded shard
  | @evicted newer older last full split same others =>
    have sublist : (newer ++ older).Sublist c.entries := by
      rw [split]
      exact (List.sublist_cons_self last older).append_left newer
    have kept : ((newer ++ older).map Entry.key).Sublist c.keys := sublist.map _
    refine ⟨List.nodup_cons.2 ⟨fun held => new (kept.subset held), tidy.distinct.sublist kept⟩,
      tidy.shards, tidy.capacity, ?_⟩
    intro shard
    have before := tidy.bounded shard
    change ((entry :: (newer ++ older)).filter fun e => c.shard e.key = shard).length ≤ _
    rw [split] at before
    simp only [List.filter_cons, List.filter_append, List.length_append, same] at before ⊢
    split
    · next here =>
      rw [if_pos here] at before
      simpa [Nat.add_assoc] using before
    · next elsewhere =>
      rw [if_neg elsewhere] at before
      simpa using before

/-! ## The size of a cache -/

/-- A list holds no more than all its classes together. -/
theorem length_le_of_classes {classOf : Entry → Nat} {bound : Nat} (count : Nat)
    {entries : List Entry} (classed : ∀ e ∈ entries, classOf e < count)
    (bounded : ∀ n, (entries.filter fun e => classOf e = n).length ≤ bound) :
    entries.length ≤ bound * count := by
  induction count generalizing entries with
  | zero =>
    cases entries with
    | nil => exact Nat.zero_le _
    | cons e es => exact absurd (classed e List.mem_cons_self) (Nat.not_lt_zero _)
  | succ count ih =>
    have rest : (entries.filter fun e => !decide (classOf e = count)).length ≤ bound * count := by
      refine ih (fun e member => ?_) fun n => ?_
      · obtain ⟨member, other⟩ := List.mem_filter.1 member
        have below := classed e member
        simp only [Bool.not_eq_true', decide_eq_false_iff_not] at other
        omega
      · exact Nat.le_trans (List.filter_sublist.filter _).length_le (bounded n)
    have parts := List.length_eq_length_filter_add (l := entries)
      fun e => decide (classOf e = count)
    have last := bounded count
    rw [Nat.mul_succ]
    omega

theorem Tidy.shard_lt (tidy : c.Tidy) (key : Key) : c.shard key < c.shardCount.toNat :=
  Nat.mod_lt _ tidy.shards

/-- A tidy cache holds no more than its shards together. -/
theorem Tidy.size_le (tidy : c.Tidy) :
    c.size ≤ c.shardCapacity.toNat * c.shardCount.toNat :=
  length_le_of_classes c.shardCount.toNat (fun e _ => tidy.shard_lt e.key) tidy.bounded

/-- What is reported is what the shards have room for together. -/
theorem toNat_capacity (c : Cache) :
    c.capacity.toNat = c.shardCapacity.toNat * c.shardCount.toNat := by
  rw [capacity, UInt64.toNat_mul]
  exact Nat.mod_eq_of_lt c.fits

theorem Tidy.size_le_capacity (tidy : c.Tidy) : c.size ≤ c.capacity.toNat := by
  rw [c.toNat_capacity]
  exact tidy.size_le

/-! ## New caches -/

theorem toNat_max (n m : UInt64) : (max n m).toNat = max n.toNat m.toNat := by
  change (if n ≤ m then m else n).toNat = _
  split
  · next le =>
    have le := UInt64.le_iff_toNat_le.1 le
    omega
  · next above =>
    have above := mt UInt64.le_iff_toNat_le.2 above
    omega

theorem toNat_min (n m : UInt64) : (min n m).toNat = min n.toNat m.toNat := by
  change (if n ≤ m then n else m).toNat = _
  split
  · next le =>
    have le := UInt64.le_iff_toNat_le.1 le
    omega
  · next above =>
    have above := mt UInt64.le_iff_toNat_le.2 above
    omega

/-- To round a quotient up never leaves the range of words. -/
theorem toNat_divideUp {n d : UInt64} (positive : 0 < d.toNat) :
    (divideUp n d).toNat = n.toNat / d.toNat + if n.toNat % d.toNat = 0 then 0 else 1 := by
  have remainder : n % d = 0 ↔ n.toNat % d.toNat = 0 := by
    rw [← UInt64.toNat_inj, UInt64.toNat_mod]
    rfl
  rw [divideUp]
  by_cases divides : n % d = 0
  · rw [if_pos divides, if_pos (remainder.1 divides), UInt64.toNat_div, Nat.add_zero]
  · have remains : n.toNat % d.toNat ≠ 0 := fun none => divides (remainder.2 none)
    -- only a divisor of two or more leaves a remainder
    have two : 2 ≤ d.toNat := by
      by_contra less
      have one : d.toNat = 1 := by omega
      rw [one, Nat.mod_one] at remains
      exact remains rfl
    have half : n.toNat / d.toNat ≤ n.toNat / 2 := Nat.div_le_div_left two (by decide)
    have word := n.toNat_lt
    rw [if_neg divides, if_neg remains, UInt64.toNat_add, UInt64.toNat_div]
    exact Nat.mod_eq_of_lt (Nat.lt_of_le_of_lt (Nat.add_le_add_right half 1) (by omega))

section Created

variable {site : Site} {capacity shards : UInt64}

theorem Created.toNat_shardCount (created : c.Created site capacity shards) :
    c.shardCount.toNat = max 1 (min shards.toNat (max capacity.toNat 1)) := by
  rw [created.shardCount, Settings.clamp, toNat_max, toNat_min, toNat_max]
  rfl

theorem Created.tidy (created : c.Created site capacity shards) : c.Tidy := by
  have count := created.toNat_shardCount
  have positive : 0 < c.shardCount.toNat := by omega
  have least : c.shardCount.toNat ≤ (max capacity 1).toNat := by
    rw [count, toNat_max]
    change max 1 (min shards.toNat (max capacity.toNat 1)) ≤ max capacity.toNat 1
    omega
  have quotient := Nat.div_pos least positive
  refine ⟨?_, positive, ?_, fun shard => ?_⟩
  · rw [keys, created.entries]
    exact List.nodup_nil
  · rw [created.shardCapacity, toNat_divideUp positive]
    omega
  · rw [created.entries]
    exact Nat.zero_le _

end Created

end RowScope.Cache
