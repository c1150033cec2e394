/-!
# Dictionaries with names as keys

A `Dict` keeps its entries in the order in which their names first came in;
putting a value under a name that is present replaces it in place.  No name
occurs twice, which the type carries.

The view of a dictionary is `get?`: `get?_put` and `get?_erase` say what the two
changes do to it, and `keys_put` what they do to the order of the names.
-/

namespace RowScope

/-! ## Lists of named values -/

namespace Entries

variable {α : Type}

/-- The names of a list of entries. -/
def keys (es : List (String × α)) : List String := es.map Prod.fst

/-- The value of the first entry with a name. -/
def get? (name : String) : List (String × α) → Option α
  | [] => none
  | (k, v) :: es => if k = name then some v else get? name es

/-- Replaces the value of the first entry with a name, or appends one. -/
def put (name : String) (value : α) : List (String × α) → List (String × α)
  | [] => [(name, value)]
  | (k, v) :: es => if k = name then (k, value) :: es else (k, v) :: put name value es

/-- Removes every entry with a name. -/
def erase (name : String) (es : List (String × α)) : List (String × α) :=
  es.filter fun e => e.1 ≠ name

theorem keys_put (name : String) (value : α) (es : List (String × α)) :
    keys (put name value es) =
      if name ∈ keys es then keys es else keys es ++ [name] := by
  induction es with
  | nil => simp [keys, put]
  | cons e es ih =>
    obtain ⟨k, v⟩ := e
    by_cases h : k = name
    · simp [keys, put, h]
    · have h' : name ≠ k := fun e => h e.symm
      simp only [keys] at ih
      by_cases m : name ∈ es.map Prod.fst <;> simp_all [keys, put]

theorem get?_put (name other : String) (value : α) (es : List (String × α)) :
    get? other (put name value es) = if name = other then some value else get? other es := by
  induction es with
  | nil => simp [get?, put]
  | cons e es ih =>
    obtain ⟨k, v⟩ := e
    by_cases h : k = name
    · subst h
      by_cases o : k = other <;> simp [get?, put, o]
    · by_cases o : name = other
      · subst o; simp_all [get?, put]
      · simp_all [get?, put]

theorem get?_erase (name other : String) (es : List (String × α)) :
    get? other (erase name es) = if name = other then none else get? other es := by
  induction es with
  | nil => simp [get?, erase]
  | cons e es ih =>
    obtain ⟨k, v⟩ := e
    by_cases h : k = name
    · subst h
      by_cases o : k = other <;> simp_all [get?, erase]
    · by_cases o : name = other
      · subst o; simp_all [get?, erase]
      · simp_all [get?, erase]

theorem get?_eq_none_iff {name : String} {es : List (String × α)} :
    get? name es = none ↔ name ∉ keys es := by
  induction es with
  | nil => simp [get?, keys]
  | cons e es ih =>
    obtain ⟨k, v⟩ := e
    by_cases h : k = name
    · simp [get?, keys, h]
    · have h' : name ≠ k := fun e => h e.symm
      simp_all [get?, keys]

theorem mem_of_get? {name : String} {value : α} {es : List (String × α)}
    (found : get? name es = some value) : (name, value) ∈ es := by
  induction es with
  | nil => cases found
  | cons e es ih =>
    obtain ⟨k, v⟩ := e
    by_cases h : k = name
    · simp_all [get?]
    · simp only [get?, h, if_false] at found
      exact List.mem_cons_of_mem _ (ih found)

theorem get?_of_mem {name : String} {value : α} {es : List (String × α)}
    (distinct : (keys es).Nodup) (member : (name, value) ∈ es) : get? name es = some value := by
  induction es with
  | nil => cases member
  | cons e es ih =>
    obtain ⟨k, v⟩ := e
    obtain ⟨absent, distinct⟩ := List.nodup_cons.1 distinct
    rcases List.mem_cons.1 member with same | later
    · simp_all [get?]
    · have other : k ≠ name := fun same =>
        absent (List.mem_map.2 ⟨(name, value), later, same.symm⟩)
      simp [get?, other, ih distinct later]

theorem nodup_keys_put {es : List (String × α)} (h : (keys es).Nodup) (name : String)
    (value : α) : (keys (put name value es)).Nodup := by
  rw [keys_put]
  split
  · exact h
  · rename_i absent
    rw [List.nodup_append]
    refine ⟨h, by simp, ?_⟩
    intro a ha b hb
    rw [List.mem_singleton.1 hb]
    exact fun e => absent (e ▸ ha)

theorem nodup_keys_erase {es : List (String × α)} (h : (keys es).Nodup) (name : String) :
    (keys (erase name es)).Nodup :=
  h.sublist (List.filter_sublist.map Prod.fst)

end Entries

/-! ## Dictionaries -/

/-- Values under distinct names, in the order in which the names came in. -/
structure Dict (α : Type) where
  entries : List (String × α)
  nodup : (Entries.keys entries).Nodup

namespace Dict

variable {α : Type}

/-- The dictionary without entries. -/
def empty : Dict α := ⟨[], List.nodup_nil⟩

instance : EmptyCollection (Dict α) := ⟨empty⟩

instance : Inhabited (Dict α) := ⟨empty⟩

/-- The names, in order. -/
def keys (d : Dict α) : List String := Entries.keys d.entries

/-- The value under a name. -/
def get? (d : Dict α) (name : String) : Option α := Entries.get? name d.entries

/-- Whether there is a value under a name. -/
def contains (d : Dict α) (name : String) : Bool := (d.get? name).isSome

/-- Puts a value under a name, in place of the one that was there. -/
def put (d : Dict α) (name : String) (value : α) : Dict α :=
  ⟨Entries.put name value d.entries, Entries.nodup_keys_put d.nodup name value⟩

/-- Takes away the value under a name. -/
def erase (d : Dict α) (name : String) : Dict α :=
  ⟨Entries.erase name d.entries, Entries.nodup_keys_erase d.nodup name⟩

/-- The dictionary of a list of entries; the last value under a name counts. -/
def ofList (es : List (String × α)) : Dict α :=
  es.foldl (fun d e => d.put e.1 e.2) empty

/-- The number of entries. -/
def size (d : Dict α) : Nat := d.entries.length

def isEmpty (d : Dict α) : Bool := d.entries.isEmpty

/-- The entries in the order of their names. -/
def sorted (d : Dict α) : List (String × α) :=
  d.entries.mergeSort fun a b => decide (a.1 ≤ b.1)

/-- Whether two dictionaries have the same names and, under each, values that
`eq` holds of. -/
def sameBy (eq : α → α → Bool) (d e : Dict α) : Bool :=
  d.size == e.size && d.entries.all fun (name, v) =>
    match e.get? name with
    | some w => eq v w
    | none => false

theorem get?_put (d : Dict α) (name other : String) (value : α) :
    (d.put name value).get? other = if name = other then some value else d.get? other :=
  Entries.get?_put name other value d.entries

theorem get?_erase (d : Dict α) (name other : String) :
    (d.erase name).get? other = if name = other then none else d.get? other :=
  Entries.get?_erase name other d.entries

theorem keys_put (d : Dict α) (name : String) (value : α) :
    (d.put name value).keys = if name ∈ d.keys then d.keys else d.keys ++ [name] :=
  Entries.keys_put name value d.entries

theorem get?_eq_none_iff {d : Dict α} {name : String} :
    d.get? name = none ↔ name ∉ d.keys :=
  Entries.get?_eq_none_iff

/-- The entries of a dictionary are the names with the values under them. -/
theorem mem_entries_iff {d : Dict α} {name : String} {value : α} :
    (name, value) ∈ d.entries ↔ d.get? name = some value :=
  ⟨Entries.get?_of_mem d.nodup, Entries.mem_of_get?⟩

@[simp] theorem get?_empty (name : String) : (empty : Dict α).get? name = none := rfl

end Dict

end RowScope
