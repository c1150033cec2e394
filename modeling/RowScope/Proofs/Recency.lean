import RowScope.Proofs.CacheUse

/-!
# A cache of one shard keeps the keys that were used last

`Cache.Log` is what a cache was asked and how it answered.  Everything about a
cache of one shard can be told from that alone.

* `usedKeys`: the keys that were used since the last clearing.  A key is used when
  an operation on it is answered with a predicate.
* `residents`: the distinct ones among them that were used last, as many as there
  is room for.
* `admissions`: the insertions under keys that were not resident.
* `Recalls` ties a cache to its log, and every operation keeps it (`Recalls.perform`):
  one that uses a resident key promotes it (`Recalls.hit`), one that uses another key
  admits it (`Recalls.admit`), and one that uses none does nothing (`Recalls.idle`).
-/

namespace RowScope

/-! ## The distinct elements that come first -/

section Distinct

variable {α : Type} [DecidableEq α] {a : α}

theorem eraseDups_filter (p : α → Bool) (l : List α) :
    (l.filter p).eraseDups = l.eraseDups.filter p := by
  induction length : l.length using Nat.strongRecOn generalizing l with
  | ind n ih =>
    cases l with
    | nil => rfl
    | cons a l =>
      have shorter : (l.filter fun b => !b == a).length < n := by
        have le := (List.filter_sublist (l := l) (p := fun b => !b == a)).length_le
        rw [List.length_cons] at length
        omega
      have rest := ih _ shorter (l.filter fun b => !b == a) rfl
      rw [List.eraseDups_cons]
      cases holds : p a with
      | true =>
        rw [List.filter_cons_of_pos holds, List.filter_cons_of_pos holds, List.eraseDups_cons,
          ← rest, List.filter_filter, List.filter_filter]
        congr 3
        funext b
        exact Bool.and_comm _ _
      | false =>
        rw [List.filter_cons_of_neg (by simp [holds]), List.filter_cons_of_neg (by simp [holds]),
          ← rest, List.filter_filter]
        congr 2
        funext b
        by_cases same : b = a
        · simp [same, holds]
        · simp [same]

/-- A new first element comes before all other ones. -/
theorem eraseDups_cons_eq (a : α) (l : List α) :
    (a :: l).eraseDups = a :: l.eraseDups.filter fun b => b ≠ a := by
  rw [List.eraseDups_cons, eraseDups_filter]
  congr 2
  funext b
  by_cases same : b = a <;> simp [same]

theorem nodup_eraseDups (l : List α) : l.eraseDups.Nodup := by
  induction l with
  | nil => exact List.nodup_nil
  | cons a l ih =>
    rw [eraseDups_cons_eq, List.nodup_cons]
    exact ⟨by simp, ih.filter _⟩

/-- One of the first `n` that comes to the front stays among them, with all the
others. -/
theorem take_cons_filter_of_mem {n : Nat} {l : List α} (distinct : l.Nodup)
    (member : a ∈ l.take n) :
    (a :: l.filter fun b => b ≠ a).take n = a :: (l.take n).filter fun b => b ≠ a := by
  induction l generalizing n with
  | nil => simp at member
  | cons b l ih =>
    obtain ⟨new, distinct⟩ := List.nodup_cons.1 distinct
    cases n with
    | zero => simp at member
    | succ n =>
      rw [List.take_succ_cons] at member ⊢
      by_cases same : b = a
      · subst same
        have others : ∀ k : List α, k ⊆ l → k.filter (fun c => c ≠ b) = k := fun k within =>
          List.filter_eq_self.2 fun c later => by
            simpa using fun same : c = b => new (same ▸ within later)
        rw [List.filter_cons_of_neg (by simp), List.take_succ_cons,
          List.filter_cons_of_neg (by simp), others l (List.Subset.refl l),
          others _ (List.take_subset n l)]
      · have later : a ∈ l.take n := by
          rcases List.mem_cons.1 member with here | later
          · exact absurd here.symm same
          · exact later
        have kept := ih distinct later
        cases n with
        | zero => simp at later
        | succ n =>
          rw [List.take_succ_cons] at kept
          rw [List.take_succ_cons, List.filter_cons_of_pos (by simpa using same),
            List.take_succ_cons, List.filter_cons_of_pos (by simpa using same),
            (List.cons.inj kept).2]

/-- Another one that comes to the front drives the last of the first `n` out. -/
theorem take_cons_filter_of_not_mem {n : Nat} {l : List α} (new : a ∉ l.take n) :
    (a :: l.filter fun b => b ≠ a).take n = (a :: l.take n).take n := by
  cases n with
  | zero => rfl
  | succ n =>
    rw [List.take_succ_cons, List.take_succ_cons, List.take_take, Nat.min_eq_left (Nat.le_succ n)]
    congr 1
    induction l generalizing n with
    | nil => rfl
    | cons b l ih =>
      rw [List.take_succ_cons, List.mem_cons, not_or] at new
      obtain ⟨other, new⟩ := new
      rw [List.filter_cons_of_pos (by simpa using Ne.symm other)]
      cases n with
      | zero => rfl
      | succ n => rw [List.take_succ_cons, List.take_succ_cons, ih n new]

end Distinct

namespace Cache

/-! ## Logs -/

/-- What a cache is asked to do. -/
inductive Operation
  | get (key : Key)
  | insert (key : Key) (predicate : Predicate)
  | getOrInsert (key : Key) (compile : Logged (Except FilterError Predicate))
  | clear

/-- The key that an operation is about. -/
def Operation.key? : Operation → Option Key
  | .get key | .insert key _ | .getOrInsert key _ => some key
  | .clear => none

/-- What an operation is answered, which may be a predicate. -/
abbrev Answer := Except FilterError (Option Predicate)

/-- The answer to an operation and the cache after it. -/
def perform (c : Cache) : Operation → Answer × Cache
  | .get key => let (found, c) := (c.get key).result; (.ok found, c)
  | .insert key p => let (p, c) := (c.insert key p).result; (.ok (some p), c)
  | .getOrInsert key compile => let (made, c) := (c.getOrInsert key compile).result
    (made.map some, c)
  | .clear => (.ok none, c.clear)

/-- Operations with their answers, the last one first. -/
abbrev Log := List (Operation × Answer)

/-- A cache and its log after further operations. -/
def performAll (before : Cache × Log) (operations : List Operation) : Cache × Log :=
  operations.foldl (fun (c, log) op => ((c.perform op).2, (op, (c.perform op).1) :: log)) before

/-- The key that an answered operation has used: one that it was answered a
predicate for. -/
def used? : Operation × Answer → Option Key
  | (op, .ok (some _)) => op.key?
  | _ => none

/-- The keys used since the last clearing, the last one first. -/
def usedKeys : Log → List Key
  | [] => []
  | (.clear, _) :: _ => []
  | entry :: log => (used? entry).toList ++ usedKeys log

/-- The `n` distinct keys that were used last since the last clearing. -/
def residents (n : Nat) (log : Log) : List Key := (usedKeys log).eraseDups.take n

/-- The key and the predicate that an answered operation has for a key that is not
there. -/
def offered? : Operation × Answer → Option (Key × Predicate)
  | (.insert key p, _) => some (key, p)
  | (.getOrInsert key compile, _) => compile.result.toOption.map fun p => (key, p)
  | _ => none

/-- The insertions under keys that were not resident, the last one first. -/
def admissions (n : Nat) : Log → List (Key × Predicate)
  | [] => []
  | entry :: log =>
    ((offered? entry).filter fun offer => offer.1 ∉ residents n log).toList ++ admissions n log

/-- How many entries clearing has dropped. -/
def dropped (n : Nat) : Log → Nat
  | [] => 0
  | (.clear, _) :: log => (residents n log).length + dropped n log
  | _ :: log => dropped n log

section Logs

variable {n : Nat} {log : Log} {op : Operation} {answer : Answer} {key : Key}

theorem usedKeys_cons (keyed : op.key? = some key) :
    usedKeys ((op, answer) :: log) = (used? (op, answer)).toList ++ usedKeys log := by
  cases op with
  | clear => cases keyed
  | _ => rfl

theorem dropped_cons (keyed : op.key? = some key) :
    dropped n ((op, answer) :: log) = dropped n log := by
  cases op with
  | clear => cases keyed
  | _ => rfl

/-- The first of the residents is the key used last. -/
theorem residents_cons (keyed : op.key? = some key) (p : Predicate) :
    residents n ((op, .ok (some p)) :: log) =
      (key :: (usedKeys log).eraseDups.filter fun other => other ≠ key).take n := by
  rw [residents, usedKeys_cons keyed, used?, keyed]
  exact congrArg (List.take n) (eraseDups_cons_eq key (usedKeys log))

/-- An operation that is answered no predicate uses no key. -/
theorem residents_cons_of_unused (keyed : op.key? = some key)
    (unused : used? (op, answer) = none) :
    residents n ((op, answer) :: log) = residents n log := by
  rw [residents, usedKeys_cons keyed, unused]
  rfl

theorem key_of_offered? (keyed : op.key? = some key) {offer : Key × Predicate}
    (offered : offered? (op, answer) = some offer) : offer.1 = key := by
  cases op with
  | get | clear => cases offered
  | insert key p =>
    cases keyed
    cases offered
    rfl
  | getOrInsert key compile =>
    cases keyed
    obtain ⟨p, -, rfl⟩ := Option.map_eq_some_iff.1 offered
    rfl

/-- What is offered for a resident key is not admitted. -/
theorem admissions_cons_of_mem (keyed : op.key? = some key) (resident : key ∈ residents n log) :
    admissions n ((op, answer) :: log) = admissions n log := by
  have refused : (offered? (op, answer)).filter (fun offer => offer.1 ∉ residents n log) =
      none := by
    rw [Option.filter_eq_none_iff]
    intro offer offered
    simpa [key_of_offered? keyed offered] using resident
  rw [admissions, refused]
  rfl

theorem admissions_cons_of_none (nothing : offered? (op, answer) = none) :
    admissions n ((op, answer) :: log) = admissions n log := by
  rw [admissions, nothing]
  rfl

/-- What is offered for another key is admitted. -/
theorem admissions_cons_of_not_mem {p : Predicate}
    (offered : offered? (op, answer) = some (key, p)) (new : key ∉ residents n log) :
    admissions n ((op, answer) :: log) = (key, p) :: admissions n log := by
  rw [admissions, offered, Option.filter_some, if_pos (by simpa using new)]
  rfl

end Logs

/-! ## Caches of one shard -/

section Single

variable {c c' : Cache} {entry : Entry}

/-- All entries are in the one shard. -/
theorem shard_eq_zero (single : c.shardCount = 1) (key : Key) : c.shard key = 0 := by
  rw [shard, single]
  exact Nat.mod_one _

theorem shardEntries_eq (single : c.shardCount = 1) (key : Key) :
    c.shardEntries key = c.entries := by
  refine List.filter_eq_self.2 fun e _ => ?_
  rw [shard_eq_zero single, shard_eq_zero single]
  rfl

theorem Tidy.size_le_of_single (tidy : c.Tidy) (single : c.shardCount = 1) :
    c.size ≤ c.shardCapacity.toNat := by
  have le := tidy.size_le
  rwa [single, UInt64.toNat_one, Nat.mul_one] at le

/-- Pushing keeps as many entries as there is room for, the most recently used
first. -/
theorem Pushed.entries_eq (pushed : c.Pushed entry c') (tidy : c.Tidy)
    (single : c.shardCount = 1) :
    c'.entries = (entry :: c.entries).take c.shardCapacity.toNat := by
  have bounded : c.entries.length ≤ c.shardCapacity.toNat := tidy.size_le_of_single single
  have positive := tidy.capacity
  cases pushed with
  | room room =>
    rw [shardEntries_eq single] at room
    refine (List.take_of_length_le ?_).symm
    rw [List.length_cons]
    exact room
  | @evicted newer older last full split same others =>
    obtain rfl : older = [] := by
      refine List.eq_nil_iff_forall_not_mem.2 fun e member => others e member ?_
      rw [shard_eq_zero single, shard_eq_zero single]
    rw [shardEntries_eq single] at full
    have exactly : newer.length + 1 = c.shardCapacity.toNat := by
      rw [split] at full bounded
      rw [List.length_append, List.length_singleton] at full bounded
      omega
    rw [split, ← exactly, List.take_succ_cons, List.take_left, List.append_nil]

end Single

/-! ## What a cache recalls of its log -/

/-- A cache of one shard with room for `n` predicates, and its log. -/
structure Recalls (n : Nat) (c : Cache) (log : Log) : Prop where
  tidy : c.Tidy
  single : c.shardCount = 1
  capacity : c.shardCapacity.toNat = n
  /-- The keys are the residents, in the order of their last use. -/
  keys : c.keys = residents n log
  /-- Under a key stands what was admitted last under it. -/
  stored : ∀ e ∈ c.entries,
    (admissions n log).find? (fun offer => offer.1 = e.key) = some (e.key, e.predicate)
  /-- What was admitted is there, was evicted, or was dropped by clearing. -/
  counted : c.evictions + dropped n log + c.size = (admissions n log).length

section Recalls

variable {n : Nat} {c c' : Cache} {log : Log} {op : Operation} {key : Key} {p : Predicate}

/-- Hits and misses are not recalled. -/
theorem Recalls.recount (recalls : Recalls n c log) (hits misses : Nat) :
    Recalls n { c with hits, misses } log :=
  { recalls with tidy := recalls.tidy.recount hits misses c.evictions }

/-- An operation that uses no key leaves all entries where they are. -/
theorem Recalls.idle (recalls : Recalls n c log) (keyed : op.key? = some key) {answer : Answer}
    (unused : used? (op, answer) = none) (nothing : offered? (op, answer) = none)
    (hits misses : Nat) :
    Recalls n { c with hits, misses } ((op, answer) :: log) where
  tidy := recalls.tidy.recount hits misses c.evictions
  single := recalls.single
  capacity := recalls.capacity
  keys := recalls.keys.trans (residents_cons_of_unused keyed unused).symm
  stored e member := by
    rw [admissions_cons_of_none nothing]
    exact recalls.stored e member
  counted := by
    rw [admissions_cons_of_none nothing, dropped_cons keyed]
    exact recalls.counted

/-- An operation that uses a resident key promotes its entry. -/
theorem Recalls.hit (recalls : Recalls n c log) (keyed : op.key? = some key) {e : Entry}
    (found : c.find? key = some e) (hits misses : Nat) :
    Recalls n { c with entries := promote e c.entries, hits, misses }
      ((op, .ok (some p)) :: log) := by
  have perm := promote_perm recalls.tidy.distinct found
  have resident : key ∈ residents n log := recalls.keys ▸ mem_keys_of_find? found
  refine ⟨(recalls.tidy.of_perm perm).recount hits misses c.evictions, recalls.single,
    recalls.capacity, ?_, ?_, ?_⟩
  · rw [residents_cons keyed, take_cons_filter_of_mem (nodup_eraseDups _) resident]
    change (promote e c.entries).map Entry.key = key :: (residents n log).filter _
    rw [keys_promote, key_of_find? found, ← recalls.keys]
    rfl
  · intro e' member
    rw [admissions_cons_of_mem keyed resident]
    exact recalls.stored e' (perm.mem_iff.1 member)
  · rw [admissions_cons_of_mem keyed resident, dropped_cons keyed, ← recalls.counted]
    exact congrArg (c.evictions + dropped n log + ·) perm.length_eq

/-- An operation that uses another key admits its predicate. -/
theorem Recalls.admit (recalls : Recalls n c log) (keyed : op.key? = some key)
    (offered : offered? (op, .ok (some p)) = some (key, p)) (missing : c.find? key = none)
    (pushed : c.Pushed ⟨key, p⟩ c') : Recalls n c' ((op, .ok (some p)) :: log) := by
  have entries := pushed.entries_eq recalls.tidy recalls.single
  have new : key ∉ residents n log := recalls.keys ▸ find?_eq_none_iff.1 missing
  obtain ⟨shards, capacity⟩ := pushed.shape
  refine ⟨recalls.tidy.pushed pushed missing, shards.trans recalls.single,
    (congrArg UInt64.toNat capacity).trans recalls.capacity, ?_, ?_, ?_⟩
  · rw [residents_cons keyed, take_cons_filter_of_not_mem new]
    change c'.entries.map Entry.key = (key :: residents n log).take n
    rw [entries, List.map_take, recalls.capacity, ← recalls.keys]
    rfl
  · intro e member
    rw [admissions_cons_of_not_mem offered new]
    have held : e ∈ (⟨key, p⟩ :: c.entries : List Entry) := by
      rw [entries] at member
      exact List.mem_of_mem_take member
    rcases List.mem_cons.1 held with rfl | old
    · simp
    · have other : key ≠ e.key := fun same =>
        find?_eq_none_iff.1 missing (same ▸ List.mem_map_of_mem old)
      rw [List.find?_cons_of_neg (by simpa using other)]
      exact recalls.stored e old
  · have counted := pushed.counted.1
    rw [admissions_cons_of_not_mem offered new, dropped_cons keyed, List.length_cons,
      ← recalls.counted]
    omega

/-- Clearing drops every entry. -/
theorem Recalls.clear (recalls : Recalls n c log) (answer : Answer) :
    Recalls n c.clear ((.clear, answer) :: log) where
  tidy := recalls.tidy.clear
  single := recalls.single
  capacity := recalls.capacity
  keys := List.take_nil.symm
  stored _ member := by cases member
  counted := by
    have held : (residents n log).length = c.size := by
      rw [← recalls.keys, Cache.keys, List.length_map, size]
    rw [admissions_cons_of_none rfl, ← recalls.counted, dropped, held]
    change c.evictions + (c.size + dropped n log) + 0 = _
    omega

/-- **Every operation** leads to a cache that recalls it. -/
theorem Recalls.perform (recalls : Recalls n c log) (op : Operation) :
    Recalls n (c.perform op).2 ((op, (c.perform op).1) :: log) := by
  have capacity := recalls.tidy.capacity
  cases op with
  | get key =>
    rw [Cache.perform, get_eq]
    cases found : c.find? key with
    | some e => exact recalls.hit rfl found (c.hits + 1) c.misses
    | none => exact recalls.idle rfl rfl rfl c.hits (c.misses + 1)
  | insert key p =>
    rw [Cache.perform, insert_eq]
    cases found : c.find? key with
    | some e => exact recalls.hit rfl found c.hits c.misses
    | none => exact recalls.admit rfl rfl found (pushed_push capacity _)
  | getOrInsert key compile =>
    rw [Cache.perform, getOrInsert_eq]
    cases found : c.find? key with
    | some e => exact recalls.hit rfl found (c.hits + 1) c.misses
    | none =>
      dsimp only
      cases made : compile.result with
      | error error =>
        exact recalls.idle rfl rfl (by rw [offered?, made]; rfl) c.hits (c.misses + 1)
      | ok p =>
        have counted := recalls.recount c.hits (c.misses + 1)
        exact counted.admit rfl (by rw [offered?, made]; rfl) found
          (pushed_push counted.tidy.capacity _)
  | clear => exact recalls.clear _

/-- After any operations a cache recalls them. -/
theorem Recalls.performAll {before : Cache × Log} (recalls : Recalls n before.1 before.2)
    (operations : List Operation) :
    Recalls n (Cache.performAll before operations).1 (Cache.performAll before operations).2 := by
  induction operations generalizing before with
  | nil => exact recalls
  | cons op operations ih => exact ih (recalls.perform op)

end Recalls

section Created

variable {site : Site} {capacity : UInt64} {c : Cache}

theorem Created.shardCount_eq_one (created : c.Created site capacity 1) : c.shardCount = 1 := by
  have count := created.toNat_shardCount
  rw [← UInt64.toNat_inj, count, UInt64.toNat_one]
  omega

/-- A new cache of one shard has nothing to recall. -/
theorem Created.recalls (created : c.Created site capacity 1) :
    Recalls (max capacity 1).toNat c [] where
  tidy := created.tidy
  single := created.shardCount_eq_one
  capacity := by
    have one : c.shardCount.toNat = 1 := congrArg UInt64.toNat created.shardCount_eq_one
    rw [created.shardCapacity, toNat_divideUp (by omega), one, Nat.div_one, Nat.mod_one]
    rfl
  keys := by
    rw [Cache.keys, created.entries]
    exact List.take_nil.symm
  stored e member := by
    rw [created.entries] at member
    cases member
  counted := by
    rw [created.evictions, size, created.entries]
    rfl

end Created

/-! ## Compiling on demand -/

section Demand

variable {c : Cache} {key : Key} {e : Entry}

/-- For a resident key nothing is compiled: what compiling would come to does not
matter. -/
theorem getOrInsert_of_resident (found : c.find? key = some e)
    (compile compile' : Logged (Except FilterError Predicate)) :
    c.getOrInsert key compile = c.getOrInsert key compile' := by
  rw [getOrInsert, getOrInsert, get, found]
  rfl

/-- For another key it is: what it reports is reported. -/
theorem events_prefix_of_missing (missing : c.find? key = none)
    (compile : Logged (Except FilterError Predicate)) :
    compile.events <+: (c.getOrInsert key compile).events := by
  rw [getOrInsert, get, missing]
  dsimp only [Logged.quiet]
  rw [Logged.events_bind, List.nil_append, Logged.events_bind]
  exact List.prefix_append _ _

/-- What does not compile leaves every entry where it is. -/
theorem entries_of_refused {compile : Logged (Except FilterError Predicate)}
    {error : FilterError} (refused : (c.getOrInsert key compile).result.1 = .error error) :
    (c.getOrInsert key compile).result.2.entries = c.entries := by
  rw [getOrInsert_eq] at refused ⊢
  cases found : c.find? key with
  | some e =>
    rw [found] at refused
    cases refused
  | none =>
    rw [found] at refused
    dsimp only at refused ⊢
    cases made : compile.result with
    | error error => rfl
    | ok p =>
      rw [made] at refused
      cases refused

end Demand

/-- What a cache of one shard with room for `n` predicates holds and does, told from
its log. -/
structure Recency (n : Nat) (c : Cache) (log : Log) : Prop extends Recalls n c log where
  limited : c.size ≤ n
  /-- A resident key is answered by its entry, whatever is offered for it, which at
  most counts a hit and moves the entry to the front. -/
  resident : ∀ e ∈ c.entries,
    (c.get e.key).result =
      (some e.predicate, { c with entries := promote e c.entries, hits := c.hits + 1 }) ∧
    (∀ p, (c.insert e.key p).result =
      (e.predicate, { c with entries := promote e c.entries })) ∧
    ∀ compile, (c.getOrInsert e.key compile).result =
      (.ok e.predicate, { c with entries := promote e c.entries, hits := c.hits + 1 })
  /-- A key that is not found changes no entry and no order. -/
  missed : ∀ key, (c.get key).result.1 = none ↔ key ∉ c.keys
  unchanged : ∀ key, key ∉ c.keys → (c.get key).result.2.entries = c.entries
  /-- A predicate that does not compile changes no entry and no order. -/
  failed : ∀ key compile error, (c.getOrInsert key compile).result.1 = .error error →
    (c.getOrInsert key compile).result.2.entries = c.entries
  /-- Nothing is compiled for a resident key. -/
  uncalled : ∀ key ∈ c.keys, ∀ compile compile',
    c.getOrInsert key compile = c.getOrInsert key compile'
  /-- For any other key there is. -/
  called : ∀ key, key ∉ c.keys → ∀ compile,
    (c.getOrInsert key compile).result.1 = compile.result ∧
      compile.events <+: (c.getOrInsert key compile).events

/-- **A cache of one shard keeps the keys that were used last.**  After any
operations, whatever its capacity, the keys are the distinct ones used last since the
last clearing, as many as there is room for, in the order of their use; under each
stands the predicate that was admitted last under it; and what was admitted is there,
was evicted or was dropped.  Only a key that is not resident is compiled for, and an
operation that finds or makes no predicate moves nothing. -/
theorem recency_performAll {site : Site} {capacity : UInt64} {new : Cache}
    (created : create site capacity 1 = .ok new) (operations : List Operation) :
    let after := performAll (new, []) operations
    Recency (max capacity 1).toNat after.1 after.2 := by
  intro after
  have recalls : Recalls (max capacity 1).toNat after.1 after.2 :=
    (created_of_create created).recalls.performAll operations
  generalize after.1 = c at recalls ⊢
  generalize after.2 = log at recalls ⊢
  refine { recalls with
    limited := recalls.capacity ▸ recalls.tidy.size_le_of_single recalls.single
    resident := ?_, missed := ?_, unchanged := ?_, failed := ?_, uncalled := ?_, called := ?_ }
  · intro e member
    have found := find?_of_mem recalls.tidy.distinct member
    refine ⟨?_, fun p => ?_, fun compile => ?_⟩
    · rw [get_eq, found]
    · rw [insert_eq, found]
    · rw [getOrInsert_eq, found]
  · intro key
    rw [result_get, Option.map_eq_none_iff, find?_eq_none_iff]
  · intro key missing
    rw [get_eq, find?_eq_none_iff.2 missing]
  · intro key compile error refused
    exact entries_of_refused refused
  · intro key held compile compile'
    obtain ⟨e, found⟩ := exists_find? held
    exact getOrInsert_of_resident found compile compile'
  · intro key missing compile
    have absent := find?_eq_none_iff.2 missing
    refine ⟨?_, events_prefix_of_missing absent compile⟩
    rw [result_getOrInsert, absent]

/-! In a cache with room for two, the key that was looked up stays and the other one
goes. -/

/-- A cache with room for two. -/
def pair : Cache := (create .small 2 1).toOption.get (by decide)

theorem recency_performAll_pair :
    create .small 2 1 = .ok pair ∧
      let key (signature : String) : Key := ⟨"Post", "tenant", signature⟩
      let after := performAll (pair, [])
        [.insert (key "1") (.conj []), .insert (key "2") (.conj []), .get (key "1"),
          .insert (key "3") (.conj [])]
      after.1.keys = [key "3", key "1"] ∧ after.1.evictions = 1 ∧ after.1.size ≤ 2 ∧
        (after.1.get (key "2")).result.1 = none := by
  have created : create .small 2 1 = .ok pair := rfl
  have recency := recency_performAll created
    [.insert ⟨"Post", "tenant", "1"⟩ (.conj []), .insert ⟨"Post", "tenant", "2"⟩ (.conj []),
      .get ⟨"Post", "tenant", "1"⟩, .insert ⟨"Post", "tenant", "3"⟩ (.conj [])]
  refine ⟨created, by decide, by decide, recency.limited, ?_⟩
  exact (recency.missed _).2 (by decide)

end Cache

end RowScope
