import Mathlib
import PassForge.Proofs.Binding.Merge

/-!
# Merging stages in any order

Slot and size of a merged binding are those of the last use of its name. Where all uses of a name agree
in both, it makes no difference which of them is the last one.

* `PlacesAgree`: uses of one name in one group have the same slot and the same size.
* `merge_of_mem_iff`: what some stages merge into, any list of the same stages does.
* `merge_snoc`: a stage once more changes nothing, not even the error.
* `order_spec` is the whole statement.
-/

namespace PassForge

/-- Uses of one name in one group have the same slot and the same size. -/
def PlacesAgree (us : List Use) : Prop :=
  ∀ u ∈ us, ∀ v ∈ us, u.2.group = v.2.group → u.2.name = v.2.name →
    u.2.binding = v.2.binding ∧ u.2.size = v.2.size

variable {stages stages' : List ShaderInterface} {limit : Nat}

/-! ## The same stages in another order -/

theorem mem_uses_of_subset (h : stages ⊆ stages') {u : Use} (hu : u ∈ uses stages) :
    u ∈ uses stages' := by
  obtain ⟨i, hi, hs, hb⟩ := mem_uses.1 hu
  exact mem_uses.2 ⟨i, h hi, hs, hb⟩

theorem mem_occurrences_of_subset (h : stages ⊆ stages') {g : Nat} {n : String} {u : Use}
    (hu : u ∈ occurrences stages g n) : u ∈ occurrences stages' g n := by
  obtain ⟨hu, hgn⟩ := mem_occurrences.1 hu
  exact mem_occurrences.2 ⟨mem_uses_of_subset h hu, hgn⟩

/-- Uses of a name in a group have one place. -/
theorem PlacesAgree.occurrences (h : PlacesAgree (uses stages)) {g : Nat} {n : String} {u v : Use}
    (hu : u ∈ occurrences stages g n) (hv : v ∈ occurrences stages g n) :
    u.2.binding = v.2.binding ∧ u.2.size = v.2.size := by
  obtain ⟨hu, hug, hun⟩ := mem_occurrences.1 hu
  obtain ⟨hv, hvg, hvn⟩ := mem_occurrences.1 hv
  exact h u hu v hv (hug.trans hvg.symm) (hun.trans hvn.symm)

/-- Whichever of some uses is the last one, a binding joins them if they have one place. -/
theorem MergedBinding.Joins.of_mem_iff {m : MergedBinding} {us vs : List Use} (h : m.Joins us)
    (hmem : ∀ u, u ∈ vs ↔ u ∈ us)
    (hplace : ∀ u ∈ us, ∀ v ∈ us, u.2.binding = v.2.binding ∧ u.2.size = v.2.size) :
    m.Joins vs where
  last := by
    obtain ⟨u, hu, hb, hs⟩ := h.last
    have hus : u ∈ us := List.mem_of_getLast? hu
    cases hv : vs.getLast? with
    | none =>
      rw [List.getLast?_eq_none_iff] at hv
      subst hv
      exact absurd ((hmem u).2 hus) List.not_mem_nil
    | some v =>
      obtain ⟨hbv, hsv⟩ := hplace u hus v ((hmem v).1 (List.mem_of_getLast? hv))
      exact ⟨v, rfl, hb.trans hbv, hs.trans hsv⟩
  kind u hu := h.kind u ((hmem u).1 hu)
  sees s := by simp only [h.sees, hmem]

section Members

variable (hmem : ∀ i, i ∈ stages' ↔ i ∈ stages)
include hmem

theorem mem_occurrences_iff_of_mem_iff {g : Nat} {n : String} {u : Use} :
    u ∈ occurrences stages' g n ↔ u ∈ occurrences stages g n :=
  ⟨mem_occurrences_of_subset fun i => (hmem i).1, mem_occurrences_of_subset fun i => (hmem i).2⟩

theorem occurrences_ne_nil_iff_of_mem_iff {g : Nat} {n : String} :
    occurrences stages' g n ≠ [] ↔ occurrences stages g n ≠ [] := by
  simp only [ne_eq, List.eq_nil_iff_forall_not_mem, mem_occurrences_iff_of_mem_iff hmem]

/-- The last use of a name in another order has the place of the last one in this order. -/
theorem PlacesAgree.exists_last (h : PlacesAgree (uses stages)) {g : Nat} {n : String} {u : Use}
    (hu : (PassForge.occurrences stages' g n).getLast? = some u) :
    ∃ v, (PassForge.occurrences stages g n).getLast? = some v ∧ u.2.binding = v.2.binding := by
  have hmem_u := (mem_occurrences_iff_of_mem_iff hmem).1 (List.mem_of_getLast? hu)
  obtain ⟨v, hv⟩ := Option.ne_none_iff_exists'.1 fun hnone =>
    List.ne_nil_of_mem hmem_u (List.getLast?_eq_none_iff.1 hnone)
  exact ⟨v, hv, (h.occurrences hmem_u (List.mem_of_getLast? hv)).1⟩

theorem Mergeable.of_mem_iff (h : Mergeable stages limit) (hplace : PlacesAgree (uses stages)) :
    Mergeable stages' limit where
  few i hi := h.few i ((hmem i).1 hi)
  below i hi := h.below i ((hmem i).1 hi)
  kind g n u hu v hv :=
    h.kind g n u ((mem_occurrences_iff_of_mem_iff hmem).1 hu) v
      ((mem_occurrences_iff_of_mem_iff hmem).1 hv)
  slot g n n' u u' hu hu' hslot := by
    obtain ⟨v, hv, hb⟩ := hplace.exists_last hmem hu
    obtain ⟨v', hv', hb'⟩ := hplace.exists_last hmem hu'
    exact h.slot g n n' v v' hv hv' (by rw [← hb, ← hb', hslot])

theorem Merges.of_mem_iff {gs : List MergedGroup} (h : Merges stages gs)
    (hplace : PlacesAgree (uses stages)) : Merges stages' gs where
  used g n hn := h.used g n ((occurrences_ne_nil_iff_of_mem_iff hmem).1 hn)
  least g hg := by
    obtain ⟨n, hn⟩ := h.least g hg
    exact ⟨n, (occurrences_ne_nil_iff_of_mem_iff hmem).2 hn⟩
  group g grp hgrp := by
    obtain ⟨hindex, hm⟩ := h.group g grp hgrp
    refine ⟨hindex, hm.once, fun n hn => ?_, fun m hms => ?_, hm.ascending⟩
    · exact hm.complete n ((occurrences_ne_nil_iff_of_mem_iff hmem).1 hn)
    · refine (hm.joins m hms).of_mem_iff (fun u => mem_occurrences_iff_of_mem_iff hmem) ?_
      exact fun u hu v hv => hplace.occurrences hu hv

/-- What some stages merge into, any list of the same stages does. -/
theorem merge_of_mem_iff (hplace : PlacesAgree (uses stages)) {gs : List MergedGroup}
    (h : merge stages limit = .ok gs) : merge stages' limit = .ok gs := by
  obtain ⟨gs', hgs'⟩ := ((mergeable_of_merge h).of_mem_iff hmem hplace).exists_merge
  rw [hgs', (merges_of_merge hgs').eq ((merges_of_merge h).of_mem_iff hmem hplace)]

end Members

/-! ## A stage once more -/

/-- A use that has been collected already adds nothing. -/
theorem Collects.addUse_of_mem {us : List Use} {ms : List MergedBinding} {u : Use}
    (h : Collects us ms) (hu : u ∈ us) (hplace : ∀ v ∈ us, v.2.name = u.2.name →
      v.2.binding = u.2.binding ∧ v.2.size = u.2.size) :
    PassForge.addUse u.1 u.2 ms = .ok ms := by
  obtain ⟨x, hx, hxu⟩ := h.complete u hu
  rcases new_or_old ms u.2.name with hnew | ⟨pre, m, post, rfl, hn, hpre⟩
  · exact absurd hxu (hnew x hx)
  · have hj := h.joins m (by simp)
    have hmem : u ∈ named us m.name := mem_named.2 ⟨hu, hn.symm⟩
    obtain ⟨v, hv, hb, hs⟩ := hj.last
    obtain ⟨hvs, hvn⟩ := mem_named.1 (List.mem_of_getLast? hv)
    obtain ⟨hvb, hvsize⟩ := hplace v hvs (hvn.trans hn)
    have hseen : m.visibility.union u.1.visibility = m.visibility := by
      apply Visibility.ext_sees
      intro s
      rw [Visibility.sees_union, Bool.or_eq_left_iff_imp, Stage.sees_visibility]
      rintro rfl
      exact (hj.sees _).2 ⟨u, hmem, rfl⟩
    have hjoin : m.join u.1 u.2 = .ok m := by
      rw [MergedBinding.join, if_pos (hj.kind u hmem).symm, hseen, ← hvb, ← hvsize, ← hb, ← hs]
    rw [addUse_of_old hpre hn, hjoin]
    rfl

/-- Collecting some uses once more adds nothing, and changes no error. -/
theorem collect_append_of_subset {us vs : List Use} (hsub : vs ⊆ us)
    (hplace : ∀ u ∈ us, ∀ v ∈ us, u.2.name = v.2.name →
      u.2.binding = v.2.binding ∧ u.2.size = v.2.size) : collect (us ++ vs) = collect us := by
  have happend : collect (us ++ vs) =
      collect us >>= fun ms => vs.foldlM (fun ms u => addUse u.1 u.2 ms) ms := List.foldlM_append
  rw [happend]
  cases hms : collect us with
  | error e => rfl
  | ok ms =>
    show vs.foldlM (fun ms u => addUse u.1 u.2 ms) ms = .ok ms
    have hc := collects_of_collect hms
    clear happend
    induction vs with
    | nil => rfl
    | cons v vs ih =>
      obtain ⟨hv, hvs⟩ := List.cons_subset.1 hsub
      rw [List.foldlM_cons, hc.addUse_of_mem hv fun u hu hn => hplace u hu v hv hn]
      exact ih hvs

theorem groupUses_snoc (stages : List ShaderInterface) (i : ShaderInterface) (g : Nat) :
    groupUses (stages ++ [i]) g =
      groupUses stages g ++ (i.inGroup g).map fun b => (i.stage, b) := by
  simp [groupUses]

theorem groupSpan_le_of_subset (h : stages ⊆ stages') : groupSpan stages ≤ groupSpan stages' := by
  rcases hspan : groupSpan stages with _ | g
  · omega
  · obtain ⟨u, hu, rfl⟩ := (groupSpan_spec stages).2 g hspan
    exact (groupSpan_spec stages').1 u (mem_uses_of_subset h hu)

variable {i : ShaderInterface}

/-- In each group, a stage once more changes nothing. -/
theorem mergeGroup_snoc (hplace : PlacesAgree (uses stages)) (hi : i ∈ stages) (g : Nat) :
    mergeGroup (stages ++ [i]) g = mergeGroup stages g := by
  have hcollect : collect (groupUses (stages ++ [i]) g) = collect (groupUses stages g) := by
    rw [groupUses_snoc]
    refine collect_append_of_subset (fun u hu => ?_) fun u hu v hv hn => ?_
    · exact List.mem_flatMap.2 ⟨i, hi, hu⟩
    · simp only [groupUses_eq_filter, List.mem_filter, decide_eq_true_eq] at hu hv
      exact hplace u hu.1 v hv.1 (hu.2.trans hv.2.symm) hn
  unfold mergeGroup
  exact congrArg (· >>= _) hcollect

/-- Checking a stage once more changes nothing. -/
theorem forM_checkGroups_snoc (hi : i ∈ stages) :
    (stages ++ [i]).forM (checkGroups limit) = stages.forM (checkGroups limit) := by
  have happend : (stages ++ [i]).forM (checkGroups limit) =
      stages.forM (checkGroups limit) >>= fun _ => [i].forM (checkGroups limit) :=
    List.forM_append
  rw [happend]
  cases h : stages.forM (checkGroups limit) with
  | error e => rfl
  | ok u =>
    have hcheck : checkGroups limit i = .ok () := forM_eq_ok_iff.1 h i hi
    show (checkGroups limit i >>= fun _ => pure ()) = .ok u
    rw [hcheck]
    rfl

/-- **A stage once more changes nothing**, neither the groups nor the error. -/
theorem merge_snoc (hplace : PlacesAgree (uses stages)) (hi : i ∈ stages) :
    merge (stages ++ [i]) limit = merge stages limit := by
  have hsub : stages ++ [i] ⊆ stages := by simpa using hi
  have hspan : groupSpan (stages ++ [i]) = groupSpan stages :=
    Nat.le_antisymm (groupSpan_le_of_subset hsub) (groupSpan_le_of_subset (List.subset_append_left ..))
  unfold merge
  rw [forM_checkGroups_snoc hi, hspan, funext fun g => mergeGroup_snoc hplace hi g]

/-! ## The order of stages -/

/-- **Merging does not depend on the order of the stages.** If uses of one name in one group have the
same slot and the same size, then the stages in any other order either fail to merge as well or merge
into the same groups, and a stage that is listed once more changes nothing. -/
theorem order_spec (hplace : PlacesAgree (uses stages)) (limit : Nat) :
    (∀ stages', stages'.Perm stages →
      (∃ e e', merge stages limit = .error e ∧ merge stages' limit = .error e') ∨
        ∃ gs, merge stages limit = .ok gs ∧ merge stages' limit = .ok gs) ∧
    ∀ i ∈ stages, merge (stages ++ [i]) limit = merge stages limit := by
  refine ⟨fun stages' hperm => ?_, fun i hi => merge_snoc hplace hi⟩
  have hplace' : PlacesAgree (uses stages') := fun u hu v hv =>
    hplace u (mem_uses_of_subset hperm.subset hu) v (mem_uses_of_subset hperm.subset hv)
  cases h : merge stages limit with
  | ok gs => exact .inr ⟨gs, rfl, merge_of_mem_iff (fun _ => hperm.mem_iff) hplace h⟩
  | error e =>
    cases h' : merge stages' limit with
    | error e' => exact .inl ⟨e, e', rfl, rfl⟩
    | ok gs =>
      have hok := merge_of_mem_iff (fun _ => hperm.symm.mem_iff) hplace' h'
      exact nomatch h.symm.trans hok

namespace Shaded

/-- A stage that reads a uniform buffer. -/
def vertex : ShaderInterface where
  entryPoint := "corners"
  stage := .vertex
  bindings := [⟨"camera", 0, 1, .uniformBuffer, some 64⟩]

/-- A stage that shares the buffer, and uses two more groups. -/
def fragment : ShaderInterface where
  entryPoint := "shade"
  stage := .fragment
  bindings := [⟨"nearest", 0, 0, .sampler false, none⟩, ⟨"camera", 0, 1, .uniformBuffer, some 64⟩,
    ⟨"light", 2, 0, .uniformBuffer, some 16⟩]

end Shaded

/-- Two stages that share a buffer merge in both orders, and with one of them listed twice. -/
theorem order_shaded : PlacesAgree (uses [Shaded.vertex, Shaded.fragment]) ∧
    ∃ gs, merge [Shaded.vertex, Shaded.fragment] 4 = .ok gs ∧ gs.length = 3 ∧
      merge [Shaded.fragment, Shaded.vertex] 4 = .ok gs ∧
      merge [Shaded.vertex, Shaded.fragment, Shaded.vertex] 4 = .ok gs := by
  have hplace : PlacesAgree (uses [Shaded.vertex, Shaded.fragment]) := by
    unfold PlacesAgree
    decide +kernel
  have hlength : (merge [Shaded.vertex, Shaded.fragment] 4).toOption.map List.length = some 3 := by
    cbv
  obtain ⟨hperm, hsnoc⟩ := order_spec hplace 4
  obtain ⟨gs, hgs, hlen⟩ := Option.map_eq_some_iff.1 hlength
  have hok := toOption_eq_some_iff.1 hgs
  refine ⟨hplace, gs, hok, hlen, ?_, (hsnoc _ (List.mem_cons_self ..)).trans hok⟩
  obtain ⟨e, -, he, -⟩ | ⟨gs', h, h'⟩ := hperm _ (List.Perm.swap ..)
  · cases he.symm.trans hok
  · cases h.symm.trans hok
    exact h'

end PassForge
