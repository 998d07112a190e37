/-!
# Sorted maps

`SortedMap κ α` keeps its entries strictly sorted by key, so that iterating over it visits the keys
in ascending order whatever the order of insertion was.

* `insert` replaces an entry that is already there and puts a new one at its place otherwise.
* `get?` finds the value under a key and `modify` changes it in place.
* `insertEntry_ascending`: putting an entry into a sorted list keeps it sorted.
-/

namespace PassForge

/-- A strict order in which of two different values one is less. -/
class AscendingKey (κ : Type) [LT κ] : Prop where
  /-- What is less than something less is less. -/
  lt_trans : ∀ {a b c : κ}, a < b → b < c → a < c
  /-- Of two different values one is less. -/
  lt_of_not_lt : ∀ {a b : κ}, a ≠ b → ¬a < b → b < a

instance : AscendingKey String where
  lt_trans := String.lt_trans
  lt_of_not_lt h hlt := Std.lt_of_le_of_ne (String.not_lt.1 hlt) h.symm

variable {κ α : Type}

/-! ## Lists of entries -/

section Entries

variable [DecidableEq κ]

/-- An entry with a changed value if its key is `k`, and as it is otherwise. -/
def modifyEntry (k : κ) (f : α → α) (e : κ × α) : κ × α := if e.1 = k then (e.1, f e.2) else e

theorem fst_modifyEntry (k : κ) (f : α → α) (e : κ × α) : (modifyEntry k f e).1 = e.1 := by
  unfold modifyEntry
  split <;> rfl

variable [LT κ] [DecidableLT κ]

/-- Puts `v` under `k` into a list of entries in ascending key order. -/
def insertEntry (k : κ) (v : α) : List (κ × α) → List (κ × α)
  | [] => [(k, v)]
  | e :: rest =>
    if k = e.1 then (k, v) :: rest
    else if k < e.1 then (k, v) :: e :: rest
    else e :: insertEntry k v rest

/-- An entry is the new one or an old one. -/
theorem mem_insertEntry {k : κ} {v : α} {l : List (κ × α)} {e : κ × α}
    (h : e ∈ insertEntry k v l) : e = (k, v) ∨ e ∈ l := by
  induction l with
  | nil => exact .inl (List.mem_singleton.1 h)
  | cons a rest ih =>
    unfold insertEntry at h
    split at h
    · exact (List.mem_cons.1 h).imp_right (List.mem_cons_of_mem a)
    · split at h
      · exact List.mem_cons.1 h
      · rcases List.mem_cons.1 h with rfl | h
        · exact .inr (List.mem_cons_self ..)
        · exact (ih h).imp_right (List.mem_cons_of_mem a)

end Entries

/-- Entries in strictly ascending key order. -/
def Ascending [LT κ] (entries : List (κ × α)) : Prop := entries.Pairwise fun a b => a.1 < b.1

/-- Putting an entry into a sorted list keeps it sorted. -/
theorem insertEntry_ascending [DecidableEq κ] [LT κ] [DecidableLT κ] [AscendingKey κ]
    {k : κ} {v : α} {l : List (κ × α)} (h : Ascending l) : Ascending (insertEntry k v l) := by
  induction l with
  | nil => exact List.pairwise_singleton ..
  | cons a rest ih =>
    have ⟨head, tail⟩ := List.pairwise_cons.1 h
    unfold insertEntry
    split
    · next heq => exact List.pairwise_cons.2 ⟨fun e he => heq ▸ head e he, tail⟩
    · next hne =>
      split
      · next hlt =>
        refine List.pairwise_cons.2 ⟨fun e he => ?_, h⟩
        rcases List.mem_cons.1 he with rfl | he
        · exact hlt
        · exact AscendingKey.lt_trans hlt (head e he)
      · next hle =>
        refine List.pairwise_cons.2 ⟨fun e he => ?_, ih tail⟩
        rcases mem_insertEntry he with rfl | he
        · exact AscendingKey.lt_of_not_lt hne hle
        · exact head e he

/-! ## Maps -/

/-- Entries by key, in ascending key order. -/
structure SortedMap (κ α : Type) [LT κ] where
  /-- The entries. -/
  entries : List (κ × α)
  /-- The entries ascend by key. -/
  ascending : Ascending entries
  deriving DecidableEq

namespace SortedMap

variable [LT κ]

/-- The map without entries. -/
def empty : SortedMap κ α := ⟨[], .nil⟩

instance : Inhabited (SortedMap κ α) := ⟨empty⟩

/-- The number of keys. -/
def size (m : SortedMap κ α) : Nat := m.entries.length

/-- Whether there is no key at all. -/
def isEmpty (m : SortedMap κ α) : Bool := m.entries.isEmpty

variable [DecidableEq κ]

/-- The value under `k`, if any. -/
def get? (m : SortedMap κ α) (k : κ) : Option α :=
  (m.entries.find? fun e => e.1 = k).map Prod.snd

/-- Whether there is a value under `k`. -/
def contains (m : SortedMap κ α) (k : κ) : Bool := (m.get? k).isSome

/-- Changes the value under `k`, if any, and no other. -/
def modify (m : SortedMap κ α) (k : κ) (f : α → α) : SortedMap κ α where
  entries := m.entries.map (modifyEntry k f)
  ascending := by
    refine List.pairwise_map.2 (m.ascending.imp fun h => ?_)
    rwa [fst_modifyEntry, fst_modifyEntry]

variable [DecidableLT κ] [AscendingKey κ]

/-- Puts `v` under `k`, in the place of an earlier value. -/
def insert (m : SortedMap κ α) (k : κ) (v : α) : SortedMap κ α :=
  ⟨insertEntry k v m.entries, insertEntry_ascending m.ascending⟩

/-- The map with the given entries; of two entries with one key the later one counts. -/
def ofList (entries : List (κ × α)) : SortedMap κ α :=
  entries.foldl (fun m e => m.insert e.1 e.2) empty

end SortedMap

end PassForge
