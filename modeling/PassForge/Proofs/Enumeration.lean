import Mathlib.Data.Prod.Lex
import PassForge.Proofs.Checks

/-!
# Lists that enumerate a relation

A list can be described without following how it is computed: by the places at which its values stand.

* `filter_mergeSort`, `pairwise_mergeSort_of_pairwise`: sorting keeps the order of elements that it does
  not tell apart.
* `Enumerates R l`: the values that `R` has at places are those of `l`, each once, in the order of their
  places. `Enumerates.filterMap` and `Enumerates.flatMap` go along the computation of a list; the places
  of the latter are pairs in lexicographic order.
* `EnumeratesBy key R l`: the same in the order of a key, with the order of places among equal keys.
  Sorting an enumeration by a key yields one (`Enumerates.mergeSort`).
* `Enumerates.exists_first_iff`: the first element of a list with a property is the one at the first
  place.
-/

namespace PassForge

variable {ι κ α β : Type} [LinearOrder ι] [LinearOrder κ]

/-! ## Sorting -/

/-- Elements that the order does not tell apart keep their order when they are sorted. -/
theorem filter_mergeSort {le : α → α → Bool} {p : α → Bool}
    (trans : ∀ a b c, le a b → le b c → le a c) (total : ∀ a b, (le a b || le b a) = true)
    (hp : ∀ a b, p a → p b → le a b) (l : List α) : (l.mergeSort le).filter p = l.filter p := by
  have hpairwise : (l.filter p).Pairwise fun a b => le a b := by
    refine List.pairwise_of_forall_mem_list fun a ha b hb => ?_
    exact hp a b (List.mem_filter.1 ha).2 (List.mem_filter.1 hb).2
  have hsub := (List.sublist_mergeSort trans total hpairwise List.filter_sublist).filter p
  rw [List.filter_filter] at hsub
  simp only [Bool.and_self] at hsub
  exact (hsub.eq_of_length (((List.mergeSort_perm l le).filter p).length_eq).symm).symm

/-- Sorting a list keeps the order of elements that the sorting does not tell apart. -/
theorem pairwise_mergeSort_of_pairwise {l : List α} {le : α → α → Bool} {r : α → α → Prop}
    (trans : ∀ a b c, le a b → le b c → le a c) (total : ∀ a b, (le a b || le b a) = true)
    (h : l.Pairwise r) : (l.mergeSort le).Pairwise fun a b => le a b ∧ (le b a → r a b) := by
  rw [List.pairwise_iff_forall_sublist] at h ⊢
  intro a b hab
  have hle : le a b :=
    List.pairwise_iff_forall_sublist.1 (List.pairwise_mergeSort trans total l) hab
  refine ⟨hle, fun hge => h ?_⟩
  -- What the sorting does not tell apart from `a` stands in the sorted list as it did before.
  have hfilter : (l.mergeSort le).filter (fun x => le a x && le x a) =
      l.filter fun x => le a x && le x a := by
    refine filter_mergeSort trans total (fun x y hx hy => ?_) l
    rw [Bool.and_eq_true] at hx hy
    exact trans x a y hx.2 hy.1
  have haa : le a a := trans a b a hle hge
  have hsub := hab.filter fun x => le a x && le x a
  rw [hfilter, List.filter_cons_of_pos (by simp [haa]), List.filter_cons_of_pos (by simp [hle, hge]),
    List.filter_nil] at hsub
  exact hsub.trans List.filter_sublist

/-! ## Enumerations -/

/-- A list consists of the values that a relation has at places, each once, in the order of the
places. -/
def Enumerates (R : ι → α → Prop) (l : List α) : Prop :=
  ∃ entries : List (ι × α), entries.map Prod.snd = l ∧
    entries.Pairwise (fun x y => x.1 < y.1) ∧ ∀ p a, (p, a) ∈ entries ↔ R p a

/-- A list consists of the values that a relation has at places, each once, in the order of a key of the
values; among values of one key the order is that of the places. -/
def EnumeratesBy (key : α → Nat) (R : ι → α → Prop) (l : List α) : Prop :=
  ∃ entries : List (ι × α), entries.map Prod.snd = l ∧
    entries.Pairwise (fun x y => key x.2 < key y.2 ∨ key x.2 = key y.2 ∧ x.1 < y.1) ∧
    ∀ p a, (p, a) ∈ entries ↔ R p a

namespace Enumerates

variable {R : ι → α → Prop} {l : List α}

/-- A list enumerates its own values at their positions. -/
theorem getElem? (l : List α) : Enumerates (fun (i : Nat) a => l[i]? = some a) l := by
  refine ⟨l.zipIdx.map Prod.swap, ?_, ?_, fun i a => ?_⟩
  · rw [List.map_map]
    exact List.zipIdx_map_fst 0 l
  · have hplaces : (l.zipIdx.map Prod.snd).Pairwise (· < ·) := by
      rw [List.zipIdx_map_snd]
      exact List.pairwise_lt_range'
    exact List.pairwise_map.2 (List.pairwise_map.1 hplaces)
  · show (i, a) ∈ l.zipIdx.map Prod.swap ↔ l[i]? = some a
    rw [List.mem_map, ← List.mk_mem_zipIdx_iff_getElem?]
    constructor
    · rintro ⟨x, hx, heq⟩
      cases heq
      exact hx
    · intro h
      exact ⟨(a, i), h, rfl⟩

theorem congr {R' : ι → α → Prop} (h : Enumerates R l) (hr : ∀ p a, R p a ↔ R' p a) :
    Enumerates R' l := by
  obtain ⟨entries, hl, hplaces, hmem⟩ := h
  exact ⟨entries, hl, hplaces, fun p a => (hmem p a).trans (hr p a)⟩

theorem nil (h : ∀ p a, ¬R p a) : Enumerates R [] := by
  refine ⟨[], rfl, .nil, fun p a => ?_⟩
  simp [h p a]

theorem filterMap (h : Enumerates R l) (f : α → Option β) :
    Enumerates (fun p b => ∃ a, R p a ∧ f a = some b) (l.filterMap f) := by
  obtain ⟨entries, rfl, hplaces, hmem⟩ := h
  refine ⟨entries.filterMap fun x => (f x.2).map (x.1, ·), ?_, ?_, fun p b => ?_⟩
  · rw [List.map_filterMap, List.filterMap_map]
    congr 1
    funext x
    simp [Function.comp_def]
  · refine hplaces.filterMap _ fun x y hlt x' hx y' hy => ?_
    obtain ⟨b, -, rfl⟩ := Option.map_eq_some_iff.1 hx
    obtain ⟨b', -, rfl⟩ := Option.map_eq_some_iff.1 hy
    exact hlt
  · simp [List.mem_filterMap, ← hmem]

theorem map (h : Enumerates R l) (f : α → β) :
    Enumerates (fun p b => ∃ a, R p a ∧ f a = b) (l.map f) := by
  rw [← List.filterMap_eq_map]
  exact (h.filterMap (some ∘ f)).congr fun p b => by simp

/-- The values of a mapping that succeeds stand where those stand that are mapped. -/
theorem mapM {ε : Type} {f : α → Except ε β} {l' : List β} (h : Enumerates R l)
    (hl : l.mapM f = .ok l') : Enumerates (fun p b => ∃ a, R p a ∧ f a = .ok b) l' := by
  rw [← filterMap_toOption_of_mapM_eq_ok hl]
  exact (h.filterMap fun a => (f a).toOption).congr fun p b => by simp only [toOption_eq_some_iff]

/-- The places of a list that is put together from others are pairs of a place in the outer list and one
in the inner list. -/
theorem flatMap {S : α → κ → β → Prop} {g : α → List β} (h : Enumerates R l)
    (hg : ∀ a, Enumerates (S a) (g a)) :
    Enumerates (fun (p : ι ×ₗ κ) b => ∃ a, R (ofLex p).1 a ∧ S a (ofLex p).2 b) (l.flatMap g) := by
  obtain ⟨entries, rfl, hplaces, hmem⟩ := h
  choose inner hinner hinnerPlaces hinnerMem using hg
  refine ⟨entries.flatMap fun x => (inner x.2).map fun y => (toLex (x.1, y.1), y.2), ?_, ?_,
    fun p b => ?_⟩
  · simp [List.map_flatMap, List.flatMap_map, Function.comp_def, hinner]
  · refine List.pairwise_flatMap.2 ⟨fun x _ => List.pairwise_map.2 ?_, hplaces.imp ?_⟩
    · refine (hinnerPlaces x.2).imp fun hlt => ?_
      exact Prod.Lex.toLex_lt_toLex.2 (.inr ⟨rfl, hlt⟩)
    · intro x y hlt x' hx y' hy
      obtain ⟨_, -, rfl⟩ := List.mem_map.1 hx
      obtain ⟨_, -, rfl⟩ := List.mem_map.1 hy
      exact Prod.Lex.toLex_lt_toLex.2 (.inl hlt)
  · simp only [List.mem_flatMap, List.mem_map]
    constructor
    · rintro ⟨x, hx, y, hy, heq⟩
      cases heq
      exact ⟨x.2, (hmem _ _).1 hx, (hinnerMem _ _ _).1 hy⟩
    · rintro ⟨a, ha, hb⟩
      exact ⟨((ofLex p).1, a), (hmem _ _).2 ha, ((ofLex p).2, b), (hinnerMem _ _ _).2 hb, rfl⟩

/-- Sorted by a key, an enumeration is one in the order of the key. -/
theorem mergeSort (h : Enumerates R l) (key : α → Nat) :
    EnumeratesBy key R (l.mergeSort fun a b => decide (key a ≤ key b)) := by
  obtain ⟨entries, rfl, hplaces, hmem⟩ := h
  let le (x y : ι × α) : Bool := decide (key x.2 ≤ key y.2)
  refine ⟨entries.mergeSort le, List.map_mergeSort fun _ _ _ _ => rfl, ?_, fun p a => ?_⟩
  · have htrans : ∀ x y z, le x y → le y z → le x z := by
      intro x y z hxy hyz
      simp only [le, decide_eq_true_eq] at hxy hyz ⊢
      omega
    have htotal : ∀ x y, (le x y || le y x) = true := by
      intro x y
      simp only [le, Bool.or_eq_true, decide_eq_true_eq]
      omega
    refine (pairwise_mergeSort_of_pairwise htrans htotal hplaces).imp fun {x y} ⟨hle, hlt⟩ => ?_
    simp only [le, decide_eq_true_eq] at hle hlt
    obtain hkey | hkey := Nat.lt_or_eq_of_le hle
    · exact .inl hkey
    · exact .inr ⟨hkey, hlt (Nat.le_of_eq hkey.symm)⟩
  · rw [List.mem_mergeSort, hmem]

theorem mem_iff (h : Enumerates R l) {a : α} : a ∈ l ↔ ∃ p, R p a := by
  obtain ⟨entries, rfl, -, hmem⟩ := h
  simp [List.mem_map, ← hmem]

/-- The first place at which something holds of the value splits an enumeration. -/
theorem exists_first_iff {P Q : α → Prop} (h : Enumerates R l) :
    (∃ before a after, l = before ++ a :: after ∧ (∀ b ∈ before, P b) ∧ Q a) ↔
      ∃ p a, R p a ∧ Q a ∧ ∀ p' b, R p' b → p' < p → P b := by
  obtain ⟨entries, rfl, hplaces, hmem⟩ := h
  constructor
  · rintro ⟨before, a, after, hsplit, hbefore, ha⟩
    obtain ⟨front, rest, rfl, rfl, hrest⟩ := List.map_eq_append_iff.1 hsplit
    obtain ⟨x, back, rfl, rfl, rfl⟩ := List.map_eq_cons_iff.1 hrest
    refine ⟨x.1, x.2, (hmem _ _).1 (by simp), ha, fun p' b hb hlt => ?_⟩
    obtain ⟨-, hcons, -⟩ := List.pairwise_append.1 hplaces
    have hback := (List.pairwise_cons.1 hcons).1
    rcases List.mem_append.1 ((hmem p' b).2 hb) with hfront | hrest
    · exact hbefore b (List.mem_map.2 ⟨_, hfront, rfl⟩)
    · rcases List.mem_cons.1 hrest with rfl | hmemBack
      · exact absurd hlt (lt_irrefl _)
      · exact absurd hlt (lt_asymm (hback _ hmemBack))
  · rintro ⟨p, a, ha, hq, hfirst⟩
    obtain ⟨front, back, rfl⟩ := List.append_of_mem ((hmem p a).2 ha)
    obtain ⟨-, -, hacross⟩ := List.pairwise_append.1 hplaces
    refine ⟨front.map Prod.snd, a, back.map Prod.snd, by simp, fun b hb => ?_, hq⟩
    obtain ⟨x, hx, rfl⟩ := List.mem_map.1 hb
    exact hfirst x.1 x.2 ((hmem _ _).1 (List.mem_append_left _ hx))
      (hacross x hx (p, a) (List.mem_cons_self ..))

/-- If something holds of a value, there is a first place at which it does. -/
theorem exists_first {Q : α → Prop} (h : Enumerates R l) (hex : ∃ p a, R p a ∧ Q a) :
    ∃ p a, R p a ∧ Q a ∧ ∀ p' b, R p' b → p' < p → ¬Q b := by
  obtain ⟨p, a, ha, hq⟩ := hex
  obtain ⟨before, a', after, hsplit, hq', hbefore⟩ :=
    PassForge.exists_first (p := Q) ⟨a, h.mem_iff.2 ⟨p, ha⟩, hq⟩
  exact h.exists_first_iff.1 ⟨before, a', after, hsplit, hbefore, hq'⟩

end Enumerates

end PassForge
