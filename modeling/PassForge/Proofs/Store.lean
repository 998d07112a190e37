import Mathlib.Data.List.Nodup
import PassForge.Store

/-!
# Looking resources up

What is found in a sorted map and in a store after a change of it, and what a function that is
applied to every resource changes about a look-up.

* `SortedMap.get?_eq_some_iff`: a value is found under a key iff it is the entry of that key.
* `SortedMap.map_replace`: replacing a value by one that a function does not tell from it leaves the
  mapped map as it is.
* `Store.require_map`: looking a resource up and applying a function is looking it up among the
  mapped resources, with the same failures.
-/

namespace PassForge

variable {κ α β ε : Type}

instance : Std.Irrefl (α := ResourceId) (· < ·) := ⟨fun id => Nat.lt_irrefl id.value⟩

/-! ## Maps -/

namespace SortedMap

variable [LT κ]

/-- The map with a function applied to every value. -/
def map (f : α → β) (m : SortedMap κ α) : SortedMap κ β where
  entries := m.entries.map fun e => (e.1, f e.2)
  ascending := List.pairwise_map.2 (m.ascending.imp id)

/-- Maps with the same entries are the same. -/
theorem eq_of_entries {m m' : SortedMap κ α} (h : m.entries = m'.entries) : m = m' := by
  cases m
  cases m'
  cases h
  rfl

variable [DecidableEq κ] {m : SortedMap κ α} {k k' : κ} {v v' : α}

@[simp]
theorem get?_map (f : α → β) : (m.map f).get? k = (m.get? k).map f := by
  simp only [get?, map, List.find?_map, Option.map_map]
  rfl

/-- Under a key that is changed the changed value is found, and under any other what was there. -/
theorem get?_modify (f : α → α) :
    (m.modify k f).get? k' = if k' = k then (m.get? k).map f else m.get? k' := by
  have hkey : (fun e : κ × α => decide (e.1 = k')) ∘ modifyEntry k f = fun e => decide (e.1 = k') :=
    funext fun e => by simp only [Function.comp_apply, fst_modifyEntry]
  simp only [get?, modify, List.find?_map, hkey]
  cases h : m.entries.find? fun e => decide (e.1 = k') with
  | none =>
    split
    · next heq => rw [← heq, h]; rfl
    · rfl
  | some e =>
    have hk : e.1 = k' := by simpa using List.find?_some h
    split
    · next heq => rw [← heq, h, ← hk]; simp [modifyEntry, hk, heq]
    · next hne => simp [modifyEntry, hk, hne]

/-- What is found under a key is the entry of that key. -/
theorem get?_eq_some_iff [Std.Irrefl (α := κ) (· < ·)] : m.get? k = some v ↔ (k, v) ∈ m.entries := by
  have hnodup : (m.entries.map Prod.fst).Nodup := by
    refine List.pairwise_map.2 (m.ascending.imp ?_)
    exact fun {a b} (h : a.1 < b.1) heq => Std.Irrefl.irrefl _ (heq ▸ h)
  constructor
  · intro h
    obtain ⟨e, he, rfl⟩ := Option.map_eq_some_iff.1 h
    have hk : e.1 = k := by simpa using List.find?_some he
    exact hk ▸ List.mem_of_find?_eq_some he
  · intro h
    obtain ⟨e, he⟩ := Option.isSome_iff_exists.1
      (List.find?_isSome (p := fun e => decide (e.1 = k)).2 ⟨_, h, by simp⟩)
    have hk : e.1 = k := by simpa using List.find?_some he
    have heq : e = (k, v) := List.inj_on_of_nodup_map hnodup (List.mem_of_find?_eq_some he) h hk
    simp [get?, he, heq]

/-- The entry of a key holds what is found under it. -/
theorem snd_of_mem [Std.Irrefl (α := κ) (· < ·)] (h : m.get? k = some v) {e : κ × α}
    (he : e ∈ m.entries) (hk : e.1 = k) : e.2 = v := by
  have hget : m.get? k = some e.2 := get?_eq_some_iff.2 (hk ▸ he)
  rw [h] at hget
  cases hget
  rfl

/-- Replacing a value by one that a function does not tell from it leaves the mapped map as it
is. -/
theorem map_replace [Std.Irrefl (α := κ) (· < ·)] {f : α → β} (h : m.get? k = some v)
    (heq : f v' = f v) : (m.modify k fun _ => v').map f = m.map f := by
  refine eq_of_entries ?_
  simp only [map, modify, List.map_map]
  refine List.map_congr_left fun e he => ?_
  simp only [Function.comp_apply, modifyEntry]
  split
  · next hk => rw [snd_of_mem h he hk, heq]
  · rfl

/-- Replacing a value by itself changes nothing. -/
theorem replace_self [Std.Irrefl (α := κ) (· < ·)] (h : m.get? k = some v) :
    (m.modify k fun _ => v) = m := by
  refine eq_of_entries ((List.map_congr_left fun e he => ?_).trans (List.map_id _))
  simp only [modifyEntry]
  split
  · next hk => rw [← snd_of_mem h he hk, id]
  · rfl

/-- Of two changes of one key the later counts. -/
theorem modify_modify (f g : α → α) : (m.modify k f).modify k g = m.modify k (g ∘ f) := by
  refine eq_of_entries ?_
  simp only [modify, List.map_map]
  refine List.map_congr_left fun e _ => ?_
  simp only [Function.comp_apply, modifyEntry]
  split <;> simp_all

/-- Under the key of a new entry its value is found, and under any other what was there. -/
theorem get?_insert [DecidableLT κ] [AscendingKey κ] :
    (m.insert k v).get? k' = if k' = k then some v else m.get? k' := by
  have hfind : ∀ l : List (κ × α), ((insertEntry k v l).find? fun e => e.1 = k') =
      if k' = k then some (k, v) else l.find? fun e => e.1 = k' := by
    intro l
    induction l with
    | nil => simp [insertEntry, eq_comm]
    | cons e l ih =>
      unfold insertEntry
      by_cases hk : k = e.1
      · subst hk
        by_cases hk' : k' = e.1
        · simp [hk']
        · simp [hk', Ne.symm hk']
      · rw [if_neg hk]
        by_cases hk' : k' = k
        · subst hk'
          split <;> simp_all [Ne.symm hk]
        · split <;> simp_all [List.find?_cons, Ne.symm hk']
  simp only [get?, insert, hfind]
  split <;> rfl

end SortedMap

/-! ## Stores -/

namespace Store

variable {s : Store α} {id id' : ResourceId} {a b : α}

/-- The store with a function applied to every resource. -/
def map (f : α → β) (s : Store α) : Store β where
  kind := s.kind
  entries := s.entries.map f

@[simp]
theorem get?_map (f : α → β) : (s.map f).get? id = (s.get? id).map f := SortedMap.get?_map f

/-- Under the id of a replaced resource the new one is found. -/
theorem get?_update (h : s.get? id = some b) :
    (s.update id a).get? id' = if id' = id then some a else s.get? id' := by
  show (s.entries.modify id fun _ => a).get? id' = _
  rw [SortedMap.get?_modify, show s.entries.get? id = some b from h]
  rfl

/-- A relation between a resource and its replacement that every other resource has to itself relates
each resource to what is then found under its id. -/
theorem exists_get?_update {R : ResourceId → α → α → Prop} (h : s.get? id = some b) (hr : R id b a)
    (hrest : ∀ id' a', id' ≠ id → s.get? id' = some a' → R id' a' a') {a' : α}
    (ha' : s.get? id' = some a') : ∃ a'', (s.update id a).get? id' = some a'' ∧ R id' a' a'' := by
  rw [get?_update h]
  by_cases heq : id' = id
  · subst heq
    cases h.symm.trans ha'
    exact ⟨a, if_pos rfl, hr⟩
  · exact ⟨a', (if_neg heq).trans ha', hrest id' a' heq ha'⟩

/-- Under a new id the new resource is found. -/
theorem get?_insert : (s.insert id a).get? id' = if id' = id then some a else s.get? id' :=
  SortedMap.get?_insert

theorem map_update {f : α → β} (h : s.get? id = some b) (heq : f a = f b) :
    (s.update id a).map f = s.map f :=
  congrArg (Store.mk s.kind) (SortedMap.map_replace h heq)

theorem update_self (h : s.get? id = some a) : s.update id a = s :=
  congrArg (Store.mk s.kind) (SortedMap.replace_self h)

theorem update_update : (s.update id a).update id b = s.update id b :=
  congrArg (Store.mk s.kind) (SortedMap.modify_modify ..)

/-- Stores that are the same when mapped have the same ids, and under one id resources that are the
same when mapped. -/
theorem get?_of_map {s' : Store α} {f : α → β} (h : s'.map f = s.map f) (id : ResourceId) :
    (s.get? id = none ∧ s'.get? id = none) ∨
      ∃ a a', s.get? id = some a ∧ s'.get? id = some a' ∧ f a' = f a := by
  have hget : (s'.get? id).map f = (s.get? id).map f := by
    rw [← get?_map, ← get?_map, h]
  cases ha : s.get? id with
  | none =>
    rw [ha] at hget
    exact .inl ⟨rfl, Option.map_eq_none_iff.1 hget⟩
  | some a =>
    rw [ha] at hget
    obtain ⟨a', ha', heq⟩ := Option.map_eq_some_iff.1 hget
    exact .inr ⟨a, a', rfl, ha', heq⟩

/-- What is found in one of such stores has its like in the other. -/
theorem exists_of_map {s' : Store α} {f : α → β} (h : s'.map f = s.map f) (ha : s.get? id = some a) :
    ∃ a', s'.get? id = some a' ∧ f a' = f a := by
  obtain ⟨hnone, -⟩ | ⟨a₀, a', h₀, ha', heq⟩ := get?_of_map h id
  · exact nomatch hnone.symm.trans ha
  · cases h₀.symm.trans ha
    exact ⟨a', ha', heq⟩

theorem kind_of_map {s' : Store α} {f : α → β} (h : s'.map f = s.map f) : s'.kind = s.kind :=
  (Store.mk.inj h).1

/-- Every resource of a store, with its id, is as it should be. -/
def All (P : ResourceId → α → Prop) (s : Store α) : Prop := ∀ id a, s.get? id = some a → P id a

theorem All.imp {P Q : ResourceId → α → Prop} (h : s.All P) (hpq : ∀ id a, P id a → Q id a) :
    s.All Q := fun id a ha => hpq id a (h id a ha)

theorem All.insert {P : ResourceId → α → Prop} (h : s.All P) (ha : P id a) :
    (s.insert id a).All P := by
  intro id' a' h'
  rw [get?_insert] at h'
  split at h'
  · next heq =>
    cases h'
    exact heq ▸ ha
  · exact h id' a' h'

theorem All.update {P : ResourceId → α → Prop} (h : s.All P) (hb : s.get? id = some b)
    (ha : P id a) : (s.update id a).All P := by
  intro id' a' h'
  rw [get?_update hb] at h'
  split at h'
  · next heq =>
    cases h'
    exact heq ▸ ha
  · exact h id' a' h'

theorem find_of_some (h : s.get? id = some a) : s.find id = .ok a := by rw [find, h]

theorem find_of_none (h : s.get? id = none) : s.find id = .error (.unknownResource s.kind id) := by
  rw [find, h]

theorem find_eq_ok_iff : s.find id = .ok a ↔ s.get? id = some a := by
  unfold find
  cases s.get? id <;> simp

/-- Looking a resource up and applying a function is looking it up among the mapped resources. -/
theorem find_map (f : α → β) : (s.map f).find id = (s.find id).map f := by
  simp only [find, get?_map]
  cases s.get? id <;> rfl

theorem require_eq_ok_iff : s.require id = .ok a ↔ s.get? id = some a := by
  unfold require
  rw [← find_eq_ok_iff]
  cases s.find id <;> simp

/-- Looking a resource up for a pass and applying a function is looking it up among the mapped
resources. -/
theorem require_map (f : α → β) : (s.map f).require id = (s.require id).map f := by
  simp only [require, find_map]
  cases s.find id <;> rfl

/-- The same for all ids of a list. -/
theorem mapM_require_map (f : α → β) (ids : List ResourceId) :
    ids.mapM (s.map f).require = (ids.mapM s.require).map (List.map f) := by
  induction ids with
  | nil => rfl
  | cons id ids ih =>
    rw [List.mapM_cons, List.mapM_cons, require_map, ih]
    cases s.require id with
    | error e => rfl
    | ok a => cases ids.mapM s.require <;> rfl

end Store

end PassForge
