import RowScope.Json.Printer
import RowScope.Json.Reader

/-!
# Settings of an engine

The sizes are words of sixty-four bits.  `normalized` brings them into the range
that a cache can have: at least one entry, and between one shard and one shard
per entry.
-/

namespace RowScope

open Number

/-- How an engine is set up. -/
structure Settings where
  /-- How many compiled predicates are kept. -/
  capacity : UInt64
  /-- Into how many shards they are divided. -/
  shards : UInt64
  /-- Whether the first session freezes the registry. -/
  activateOnFirstSession : Bool
deriving DecidableEq, Repr

namespace Settings

/-- The settings of an engine that is not told any. -/
def default : Settings := ⟨1024, 16, true⟩

instance : Inhabited Settings := ⟨default⟩

/-- A number brought between two bounds. -/
def clamp (low high n : UInt64) : UInt64 := max low (min n high)

/-- The settings with sizes that a cache can have. -/
def normalized (s : Settings) : Settings :=
  let capacity := max s.capacity 1
  { s with capacity := capacity, shards := clamp 1 capacity s.shards }

/-! ## Interchange text -/

/-- The names under which a document may give one setting; it is written under
the first. -/
def capacityNames : List String := ["predicate_cache_capacity", "predicateCacheCapacity"]

def shardsNames : List String := ["predicate_cache_shards", "predicateCacheShards"]

def activateNames : List String := ["activate_on_first_session", "activateOnFirstSession"]

/-- The settings as a document. -/
def toJson (s : Settings) : Json :=
  .object
    [(capacityNames.headD "", .int s.capacity.toNat),
     (shardsNames.headD "", .int s.shards.toNat),
     (activateNames.headD "", .bool s.activateOnFirstSession)]

/-- The word that a document holds. -/
def word? : Json → Option UInt64
  | .number n => do
    let i ← n.toInt?
    if 0 ≤ i ∧ i < wordBound then some (UInt64.ofNat i.toNat) else none
  | _ => none

/-- The truth value that a document holds. -/
def flag? : Json → Option Bool
  | .bool b => some b
  | _ => none

/-- Reads a setting from its place: where none is given it keeps its default. -/
def readOr {α : Type} (read : Json → Option α) (default : α) : List Json → Option α
  | [] => some default
  | [j] => read j
  | _ => none

/-- The members under any of some names. -/
def given (names : List String) (members : List (String × Json)) : List Json :=
  (members.filter fun m => names.contains m.1).map Prod.snd

/-- Reads settings: an object that gives each at most once, under either name,
and may have other members, or an array that gives the first ones in order. -/
def ofJson? : Json → Option Settings
  | .object members => do
    let capacity ← readOr word? default.capacity (given capacityNames members)
    let shards ← readOr word? default.shards (given shardsNames members)
    let activate ← readOr flag? default.activateOnFirstSession (given activateNames members)
    pure ⟨capacity, shards, activate⟩
  | .array items => do
    if 3 < items.length then none
    let capacity ← readOr word? default.capacity (items.take 1)
    let shards ← readOr word? default.shards ((items.drop 1).take 1)
    let activate ← readOr flag? default.activateOnFirstSession (items.drop 2)
    pure ⟨capacity, shards, activate⟩
  | _ => none

/-- Reads settings from text. -/
def read? (s : String) : Option Settings := (Json.read? s).bind ofJson?

end Settings

end RowScope
