import RowScope.Log
import RowScope.Expr.Predicate
import RowScope.Memory
import RowScope.Settings.Basic

/-!
# The predicate cache

Compiled predicates are kept under the entity type, the filter and the signature
of the values that were bound.  A cache is divided into shards of equal size, and
`route` says into which of them a key goes; each shard drops the predicate that
was used the longest ago when it is full and a new one comes in.

The entries of all shards stand in one list, the most recently used first.  What
a shard holds is the part of that list whose keys are routed to it, in the same
order, so that to use an entry is to move it to the front.

A cache is made at a `Site`, which routes its keys and has the memory that its shards are
allocated in, all at once.  So it may be that there is none, and if there is one, the
entries that it has room for can be counted by a word (`Cache.fits`).

* `create` makes an empty cache, unless the memory is not enough.
* `get` looks a key up and counts a hit or a miss.
* `insert` keeps the entry that is there, if there is one.
* `getOrInsert` compiles a predicate only for a key that is not there.
-/

namespace RowScope

/-- What a compiled predicate is kept under. -/
structure Cache.Key where
  entity : String
  filter : String
  signature : String
deriving DecidableEq, Repr

namespace Cache.Key

/-- A key as it is reported. -/
def display (k : Cache.Key) : String := s!"{k.entity}/{k.filter} [{k.signature}]"

end Cache.Key

/-- A compiled predicate and its key. -/
structure Cache.Entry where
  key : Cache.Key
  predicate : Predicate

/-- The counters of a cache at one moment. -/
structure Cache.Stats where
  hits : Nat
  misses : Nat
  evictions : Nat
  size : Nat
  capacity : UInt64
deriving DecidableEq, Repr

/-- Where a cache is made. -/
structure Cache.Site where
  /-- A number for each key, by which keys are spread over the shards. -/
  route : Cache.Key → Nat
  memory : Memory

/-- Compiled predicates, the most recently used first. -/
structure Cache where
  route : Cache.Key → Nat
  shardCount : UInt64
  shardCapacity : UInt64
  entries : List Cache.Entry
  hits : Nat
  misses : Nat
  evictions : Nat
  /-- What the shards have room for together is a word. -/
  fits : shardCapacity.toNat * shardCount.toNat < Number.wordBound

namespace Cache

/-- The quotient of two words, rounded up. -/
def divideUp (n d : UInt64) : UInt64 :=
  if n % d = 0 then n / d else n / d + 1

/-- An empty cache of so many shards with so much room each.  All of them are allocated
at once, which may fail. -/
def allocate (site : Site) (shardCount shardCapacity : UInt64) : Except Memory.Failure Cache :=
  match allocated : site.memory.allocateShards shardCount.toNat shardCapacity.toNat with
  | .ok _ => .ok ⟨site.route, shardCount, shardCapacity, [], 0, 0, 0, Memory.room_lt allocated⟩
  | .error failure => .error failure

/-- An empty cache for about `capacity` entries in `shards` shards.  Both are at
least one, there are no more shards than entries, and the capacity is divided
evenly, rounded up. -/
def create (site : Site) (capacity shards : UInt64) : Except Memory.Failure Cache :=
  let capacity := max capacity 1
  let shards := Settings.clamp 1 capacity shards
  allocate site shards (divideUp capacity shards)

/-- How many entries the shards hold together at most, as a word. -/
def capacity (c : Cache) : UInt64 := c.shardCapacity * c.shardCount

/-- The number of entries. -/
def size (c : Cache) : Nat := c.entries.length

def isEmpty (c : Cache) : Bool := c.entries.isEmpty

def stats (c : Cache) : Stats :=
  ⟨c.hits, c.misses, c.evictions, c.size, c.capacity⟩

/-- A cache as a record of its shards and counters. -/
def debug (c : Cache) : String :=
  let stats := String.intercalate ", "
    [s!"hits: {c.hits}", s!"misses: {c.misses}", s!"evictions: {c.evictions}",
     s!"len: {c.size}", s!"capacity: {c.capacity}"]
  "PredicateCache \x7b shards: " ++ toString c.shardCount ++ ", stats: CacheStats \x7b "
    ++ stats ++ " \x7d \x7d"

/-- The shard of a key. -/
def shard (c : Cache) (key : Key) : Nat := c.route key % c.shardCount.toNat

/-- The entry of a key. -/
def find? (c : Cache) (key : Key) : Option Entry :=
  c.entries.find? fun e => e.key = key

/-- Whether there is an entry of a key. -/
def contains (c : Cache) (key : Key) : Bool := (c.find? key).isSome

/-- The entries with one of them at the front, as the most recently used. -/
def promote (entry : Entry) (entries : List Entry) : List Entry :=
  entry :: entries.filter fun e => e.key ≠ entry.key

/-- Takes the last entry that `p` holds of out of a list. -/
def takeLast? (p : Entry → Bool) : List Entry → Option (Entry × List Entry)
  | [] => none
  | e :: es =>
    match takeLast? p es with
    | some (last, es) => some (last, e :: es)
    | none => if p e then some (e, es) else none

/-- The entries of the shard that a key goes into. -/
def shardEntries (c : Cache) (key : Key) : List Entry :=
  c.entries.filter fun e => c.shard e.key = c.shard key

/-- Whether the shard that a key goes into has no room. -/
def isFull (c : Cache) (key : Key) : Bool :=
  decide (c.shardCapacity.toNat ≤ (c.shardEntries key).length)

/-- Looks up the predicate of a key and marks it as used. -/
def get (c : Cache) (key : Key) : Logged (Option Predicate × Cache) :=
  match c.find? key with
  | some e =>
    ⟨(some e.predicate, { c with entries := promote e c.entries, hits := c.hits + 1 }),
      [⟨.trace, s!"Predicate cache hit: {key.display}"⟩]⟩
  | none => .quiet (none, { c with misses := c.misses + 1 })

/-- Puts a new entry in front; a full shard drops its last one. -/
def push (c : Cache) (entry : Entry) : Logged Cache :=
  let dropped :=
    if c.isFull entry.key then
      takeLast? (fun e => c.shard e.key = c.shard entry.key) c.entries
    else none
  match dropped with
  | some (last, entries) =>
    ⟨{ c with entries := entry :: entries, evictions := c.evictions + 1 },
      [⟨.debug, s!"Evicted compiled predicate for {last.key.display}"⟩]⟩
  | none => .quiet { c with entries := entry :: c.entries }

/-- Puts a predicate under a key, unless there is one, and gives the one that is
there afterwards.  It counts as used. -/
def insert (c : Cache) (key : Key) (predicate : Predicate) :
    Logged (Predicate × Cache) :=
  match c.find? key with
  | some e => .quiet (e.predicate, { c with entries := promote e c.entries })
  | none => do
    Logged.report .debug s!"Caching compiled predicate for {key.display}"
    let c ← c.push ⟨key, predicate⟩
    pure (predicate, c)

/-- The predicate of a key; one that is not there is compiled and inserted.  If
it does not compile, nothing but the count of misses changes. -/
def getOrInsert (c : Cache) (key : Key)
    (compile : Logged (Except FilterError Predicate)) :
    Logged (Except FilterError Predicate × Cache) := do
  match ← c.get key with
  | (some p, c) => pure (.ok p, c)
  | (none, c) =>
    match ← compile with
    | .error e => pure (.error e, c)
    | .ok p =>
      let (p, c) ← c.insert key p
      pure (.ok p, c)

/-- Drops every entry and keeps the counters. -/
def clear (c : Cache) : Cache := { c with entries := [] }

end Cache

end RowScope
