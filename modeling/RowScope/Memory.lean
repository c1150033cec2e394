import RowScope.Error
import RowScope.Number.Double

/-!
# Memory

How much memory a process gets is up to its surroundings, so a `Memory` is whatever they
answer: how many bytes things take, and which blocks are granted.  Two laws hold of any.
Every entry of a table has a place of its own, and blocks that are in use at the same time
do not overlap, so that their bytes together have different addresses.

`allocateShards` asks for the blocks that the shards of a cache stand in.  It follows from
the laws that the entries of all shards that were allocated can be counted by a word
(`Memory.room_lt`).
-/

namespace RowScope

open Number

/-- What a process may allocate. -/
structure Memory where
  /-- The bytes of a shard without its table. -/
  shardBytes : Nat
  /-- The bytes of a table with room for so many entries. -/
  tableBytes : Nat → Nat
  /-- Whether a block of so many bytes is granted beside the bytes in use. -/
  grants : (used block : Nat) → Bool
  le_tableBytes : ∀ room, room ≤ tableBytes room
  /-- No block begins at address zero, and none reaches beyond the last address. -/
  lt_of_grants : ∀ {used block}, grants used block = true → used + block < wordBound

namespace Memory

/-- Why there is no memory for something. -/
inductive Failure
  /-- A block is longer than distances in memory can be. -/
  | tooLarge
  /-- A block is not granted. -/
  | refused
deriving DecidableEq, Repr

/-- Takes one more block into use. -/
def allocate (m : Memory) (used block : Nat) : Except Failure Nat :=
  if signedBound ≤ block then .error .tooLarge
  else if m.grants used block then .ok (used + block)
  else .error .refused

/-- Takes the tables of so many shards into use, one after the other. -/
def allocateTables (m : Memory) (room : Nat) : (count used : Nat) → Except Failure Nat
  | 0, used => .ok used
  | count + 1, used => do
    let used ← m.allocate used (m.tableBytes room)
    m.allocateTables room count used

/-- Takes so many shards into use, in one block, and then their tables, which have room
for `room` entries each. -/
def allocateShards (m : Memory) (count room : Nat) : Except Failure Nat := do
  let used ← m.allocate 0 (count * m.shardBytes)
  m.allocateTables room count used

variable {m : Memory} {room count used used' block : Nat}

theorem allocate_eq_ok_iff : m.allocate used block = .ok used' ↔
    (block < signedBound ∧ m.grants used block = true) ∧ used + block = used' := by
  rw [allocate]
  split
  · next large => simp [Nat.not_lt.2 large]
  · next small =>
    split
    · next granted => simp [Nat.lt_of_not_le small, granted]
    · next refused => simp [refused]

theorem lt_of_allocate (allocated : m.allocate used block = .ok used') : used' < wordBound := by
  obtain ⟨⟨-, granted⟩, rfl⟩ := allocate_eq_ok_iff.1 allocated
  exact m.lt_of_grants granted

theorem of_allocateTables (allocated : m.allocateTables room count used = .ok used') :
    used' = used + count * m.tableBytes room ∧ (used < wordBound → used' < wordBound) := by
  induction count generalizing used with
  | zero =>
    cases allocated
    exact ⟨by rw [Nat.zero_mul, Nat.add_zero], id⟩
  | succ count ih =>
    obtain ⟨next, first, rest⟩ := bind_eq_ok_iff.1 allocated
    obtain ⟨total, bounded⟩ := ih rest
    obtain ⟨-, rfl⟩ := allocate_eq_ok_iff.1 first
    refine ⟨?_, fun _ => bounded (lt_of_allocate first)⟩
    rw [total, Nat.succ_mul]
    omega

/-- **The entries of all shards** that were allocated can be counted by a word. -/
theorem room_lt (allocated : m.allocateShards count room = .ok used) :
    room * count < wordBound := by
  obtain ⟨next, first, rest⟩ := bind_eq_ok_iff.1 allocated
  obtain ⟨total, bounded⟩ := of_allocateTables rest
  have used := bounded (lt_of_allocate first)
  have places := Nat.mul_le_mul_left count (m.le_tableBytes room)
  rw [Nat.mul_comm]
  omega

/-! ## Memory of a given size -/

/-- The places of a table: a power of two, of which an eighth stays free. -/
def places (room : Nat) : Nat :=
  if room < 4 then 4
  else if room < 8 then 8
  else 2 <<< Nat.log2 (room * 8 / 7 - 1)

theorem le_places (room : Nat) : room ≤ places room := by
  rw [places]
  split
  · omega
  · split
    · omega
    · have reached := Nat.lt_log2_self (n := room * 8 / 7 - 1)
      rw [Nat.pow_succ'] at reached
      rw [Nat.shiftLeft_eq]
      omega

/-- A memory that grants whatever is left of its size.  A place of a table takes sixteen
bytes and one more that says whether it is free. -/
def ofSize (size : Nat) : Memory where
  shardBytes := 96
  tableBytes room := 17 * places room + 16
  grants used block := decide (used + block < min size wordBound)
  le_tableBytes room := by
    have enough := le_places room
    omega
  lt_of_grants granted := Nat.lt_of_lt_of_le (of_decide_eq_true granted) (Nat.min_le_right _ _)

end Memory

end RowScope
