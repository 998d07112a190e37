import Mathlib.Data.List.Sort
import PassForge.Proofs.Binding.Occurrence
import PassForge.Proofs.Distinct

/-!
# When bindings merge, and into what

* `Mergeable`: what the stages of a pipeline must satisfy so that their bindings can be merged.
* `Merges`: merged groups are the ones that the stages ask for. Nothing about them is left open
  (`Merges.eq`).
* `merge_spec`: merging succeeds iff the stages are mergeable, and then gives the groups that they
  ask for.
-/

namespace PassForge

/-- What the stages of a pipeline must satisfy so that their bindings can be merged on a device with
the given limit. -/
structure Mergeable (stages : List ShaderInterface) (limit : Nat) : Prop where
  /-- Each stage uses fewer different groups than the limit. -/
  few : ∀ i ∈ stages, (i.bindings.map ShaderBinding.group).toFinset.card < limit
  /-- Each group that is used is below the limit. -/
  below : ∀ i ∈ stages, ∀ b ∈ i.bindings, b.group < limit
  /-- The uses of one name in one group agree in kind. -/
  kind : ∀ g n, ∀ u ∈ occurrences stages g n, ∀ v ∈ occurrences stages g n, u.2.kind = v.2.kind
  /-- The last uses of different names in one group have different slots. -/
  slot : ∀ g n n' u u', (occurrences stages g n).getLast? = some u →
    (occurrences stages g n').getLast? = some u' → u.2.binding = u'.2.binding → n = n'

/-- Merged bindings are those that the stages ask for in a group. -/
structure MergesGroup (stages : List ShaderInterface) (g : Nat) (ms : List MergedBinding) :
    Prop where
  /-- No name stands twice. -/
  once : (ms.map MergedBinding.name).Nodup
  /-- Every name that occurs in the group stands there. -/
  complete : ∀ n, occurrences stages g n ≠ [] → ∃ m ∈ ms, m.name = n
  /-- Each binding joins the uses of its name in the group. -/
  joins : ∀ m ∈ ms, m.Joins (occurrences stages g m.name)
  /-- The slots ascend strictly. -/
  ascending : ms.Pairwise fun a b => a.binding < b.binding

/-- Merged groups are those that the stages ask for. -/
structure Merges (stages : List ShaderInterface) (gs : List MergedGroup) : Prop where
  /-- Every group that is used is there. -/
  used : ∀ g n, occurrences stages g n ≠ [] → g < gs.length
  /-- The last group is used. -/
  least : ∀ g, gs.length = g + 1 → ∃ n, occurrences stages g n ≠ []
  /-- The groups are numbered from 0 on, and each has the bindings that the stages ask for in it. -/
  group : ∀ g grp, gs[g]? = some grp → grp.index = g ∧ MergesGroup stages g grp.bindings

/-! ## One group -/

/-- Without neighbours that share a slot, bindings in slot order ascend strictly. -/
theorem pairwise_lt_of_clash?_eq_none {ms : List MergedBinding}
    (hle : ms.Pairwise fun a b => a.binding ≤ b.binding) (h : clash? ms = none) :
    ms.Pairwise fun a b => a.binding < b.binding := by
  induction ms with
  | nil => exact .nil
  | cons a rest ih =>
    have ⟨hhead, htail⟩ := List.pairwise_cons.1 hle
    cases rest with
    | nil => exact List.pairwise_singleton ..
    | cons b rest =>
      unfold clash? at h
      split at h
      · cases h
      · next hne =>
        have hlt : a.binding < b.binding := Nat.lt_of_le_of_ne (hhead b (by simp)) hne
        refine List.pairwise_cons.2 ⟨fun x hx => ?_, ih htail h⟩
        rcases List.mem_cons.1 hx with rfl | hx
        · exact hlt
        · exact Nat.lt_of_lt_of_le hlt ((List.pairwise_cons.1 htail).1 x hx)

/-- Bindings of different slots do not clash. -/
theorem clash?_eq_none_of_nodup {ms : List MergedBinding}
    (h : (ms.map MergedBinding.binding).Nodup) : clash? ms = none := by
  induction ms with
  | nil => rfl
  | cons a rest ih =>
    have ⟨hhead, htail⟩ := List.nodup_cons.1 h
    cases rest with
    | nil => rfl
    | cons b rest =>
      have hne : a.binding ≠ b.binding := fun heq => hhead (by simp [heq])
      rw [clash?, if_neg hne]
      exact ih htail

/-- Bindings in slot order. -/
def bySlot (ms : List MergedBinding) : List MergedBinding :=
  ms.mergeSort fun a b => decide (a.binding ≤ b.binding)

theorem bySlot_perm (ms : List MergedBinding) : (bySlot ms).Perm ms := List.mergeSort_perm ..

theorem bySlot_pairwise (ms : List MergedBinding) :
    (bySlot ms).Pairwise fun a b => a.binding ≤ b.binding := by
  refine List.Pairwise.imp of_decide_eq_true (List.pairwise_mergeSort ?_ ?_ ms)
  · intro a b c hab hbc
    simp only [decide_eq_true_eq] at hab hbc ⊢
    omega
  · intro a b
    simp only [Bool.or_eq_true, decide_eq_true_eq]
    omega

/-- A group merges into the bindings collected in it, in slot order, unless two of them clash. -/
theorem mergeGroup_eq_ok_iff {stages : List ShaderInterface} {g : Nat} {grp : MergedGroup} :
    mergeGroup stages g = .ok grp ↔ ∃ ms, collect (groupUses stages g) = .ok ms ∧
      clash? (bySlot ms) = none ∧ grp = ⟨g, bySlot ms⟩ := by
  unfold mergeGroup
  rw [bind_eq_ok_iff]
  refine exists_congr fun ms => and_congr_right fun _ => ?_
  simp only [bySlot]
  cases clash? (ms.mergeSort fun a b => decide (a.binding ≤ b.binding)) with
  | none => exact ⟨fun h => by cases h; exact ⟨rfl, rfl⟩, fun h => by rw [h.2]; rfl⟩
  | some p => exact ⟨fun h => (nomatch h), fun h => (nomatch h.1)⟩

theorem Collects.mergesGroup {stages : List ShaderInterface} {g : Nat} {ms : List MergedBinding}
    (h : Collects (groupUses stages g) ms) (hclash : clash? (bySlot ms) = none) :
    MergesGroup stages g (bySlot ms) where
  once := ((bySlot_perm ms).map _).nodup_iff.2 h.once
  complete n hn := by
    obtain ⟨u, hu⟩ := List.exists_mem_of_ne_nil _ hn
    rw [← named_groupUses, mem_named] at hu
    obtain ⟨m, hm, hmu⟩ := h.complete u hu.1
    exact ⟨m, (bySlot_perm ms).mem_iff.2 hm, hmu.trans hu.2⟩
  joins m hm := by
    rw [← named_groupUses]
    exact h.joins m ((bySlot_perm ms).mem_iff.1 hm)
  ascending := pairwise_lt_of_clash?_eq_none (bySlot_pairwise ms) hclash

theorem mergesGroup_of_mergeGroup {stages : List ShaderInterface} {g : Nat} {grp : MergedGroup}
    (h : mergeGroup stages g = .ok grp) : grp.index = g ∧ MergesGroup stages g grp.bindings := by
  obtain ⟨ms, hms, hclash, rfl⟩ := mergeGroup_eq_ok_iff.1 h
  exact ⟨rfl, (collects_of_collect hms).mergesGroup hclash⟩

/-- Uses of a group agree in kind iff uses of each name do. -/
theorem kindsAgree_groupUses_iff {stages : List ShaderInterface} {g : Nat} :
    KindsAgree (groupUses stages g) ↔
      ∀ n, ∀ u ∈ occurrences stages g n, ∀ v ∈ occurrences stages g n, u.2.kind = v.2.kind := by
  simp only [← named_groupUses, mem_named, KindsAgree]
  constructor
  · intro h n u hu v hv
    exact h u hu.1 v hv.1 (hu.2.trans hv.2.symm)
  · intro h u hu v hv hn
    exact h v.2.name u ⟨hu, hn⟩ v ⟨hv, rfl⟩

/-- Slots of collected bindings differ if those of the last uses of different names do. -/
theorem Collects.nodup_binding {stages : List ShaderInterface} {g : Nat} {ms : List MergedBinding}
    (h : Collects (groupUses stages g) ms)
    (hslot : ∀ n n' u u', (occurrences stages g n).getLast? = some u →
      (occurrences stages g n').getLast? = some u' → u.2.binding = u'.2.binding → n = n') :
    (ms.map MergedBinding.binding).Nodup := by
  refine List.Nodup.map_on (fun x hx y hy hxy => ?_) (List.Nodup.of_map _ h.once)
  obtain ⟨u, hu, hub, -⟩ := (h.joins x hx).last
  obtain ⟨v, hv, hvb, -⟩ := (h.joins y hy).last
  rw [named_groupUses] at hu hv
  exact List.inj_on_of_nodup_map h.once hx hy
    (hslot x.name y.name u v hu hv (by rw [← hub, ← hvb, hxy]))

theorem Mergeable.exists_mergeGroup {stages : List ShaderInterface} {limit : Nat}
    (h : Mergeable stages limit) (g : Nat) : ∃ grp, mergeGroup stages g = .ok grp := by
  obtain ⟨ms, hms⟩ := exists_collect_iff.2 (kindsAgree_groupUses_iff.2 (h.kind g))
  have hnd := (collects_of_collect hms).nodup_binding (h.slot g)
  have hclash : clash? (bySlot ms) = none :=
    clash?_eq_none_of_nodup (((bySlot_perm ms).map _).nodup_iff.2 hnd)
  exact ⟨_, mergeGroup_eq_ok_iff.2 ⟨ms, hms, hclash, rfl⟩⟩

/-- A group leaves nothing open about its bindings. -/
theorem MergesGroup.eq {stages : List ShaderInterface} {g : Nat} {ms ms' : List MergedBinding}
    (h : MergesGroup stages g ms) (h' : MergesGroup stages g ms') : ms = ms' := by
  have hsub : ∀ {xs ys}, MergesGroup stages g xs → MergesGroup stages g ys → xs ⊆ ys := by
    intro xs ys hxs hys m hm
    have hj := hxs.joins m hm
    obtain ⟨u, hu⟩ := hj.exists_mem
    obtain ⟨m', hm', hn⟩ := hys.complete m.name (List.ne_nil_of_mem hu)
    rwa [hj.eq (hn ▸ hys.joins m' hm') hn.symm]
  have hnd : ∀ {xs}, MergesGroup stages g xs → xs.Nodup := fun h => List.Nodup.of_map _ h.once
  have hperm : ms.Perm ms' :=
    (List.subperm_of_subset (hnd h) (hsub h h')).antisymm
      (List.subperm_of_subset (hnd h') (hsub h' h))
  refine hperm.eq_of_pairwise (fun a b _ _ hab hba => ?_) h.ascending h'.ascending
  exact absurd (Nat.lt_trans hab hba) (Nat.lt_irrefl _)

/-! ## All groups -/

/-- What `groupSpan` counts stops above every used group and not later. -/
theorem groupSpan_spec (stages : List ShaderInterface) :
    (∀ u ∈ uses stages, u.2.group < groupSpan stages) ∧
      (∀ g, groupSpan stages = g + 1 → ∃ u ∈ uses stages, u.2.group = g) := by
  have hmap : stages.flatMap ShaderInterface.bindings = (uses stages).map Prod.snd := by
    simp [uses, List.map_flatMap, Function.comp_def]
  rw [groupSpan, hmap, List.foldl_map]
  induction uses stages using List.reverseRecOn with
  | nil => simp
  | append_singleton us u ih =>
    rw [List.foldl_append, List.foldl_cons, List.foldl_nil]
    generalize us.foldl (fun n u => max n (u.2.group + 1)) 0 = n at ih
    refine ⟨fun v hv => ?_, fun g hg => ?_⟩
    · rcases List.mem_append.1 hv with hv | hv
      · have := ih.1 v hv
        omega
      · rw [List.mem_singleton.1 hv]
        omega
    · by_cases hgu : u.2.group = g
      · exact ⟨u, by simp, hgu⟩
      · obtain ⟨v, hv, hvg⟩ := ih.2 g (by omega)
        exact ⟨v, by simp [hv], hvg⟩

/-- The groups of an interface, counted. -/
theorem groupCount_eq_card (i : ShaderInterface) :
    i.groupCount = (i.bindings.map ShaderBinding.group).toFinset.card := by
  rw [ShaderInterface.groupCount, ShaderInterface.groupIndices, length_eraseDups,
    List.toFinset_eq_of_perm _ _ (List.mergeSort_perm ..)]

theorem checkGroups_eq_ok_iff {limit : Nat} {i : ShaderInterface} :
    checkGroups limit i = .ok () ↔ (i.bindings.map ShaderBinding.group).toFinset.card < limit ∧
      ∀ b ∈ i.bindings, b.group < limit := by
  rw [← groupCount_eq_card]
  unfold checkGroups
  split
  · next h => exact ⟨fun h => (nomatch h), fun h' => absurd h'.1 (Nat.not_lt.2 h)⟩
  · next h =>
    cases hf : i.bindings.find? fun b => limit ≤ b.group with
    | none =>
      have := List.find?_eq_none.1 hf
      exact ⟨fun _ => ⟨Nat.lt_of_not_le h, fun b hb => by simpa using this b hb⟩, fun _ => rfl⟩
    | some b =>
      have hb := List.find?_some hf
      refine ⟨fun h => (nomatch h), fun h' => absurd (h'.2 b (List.mem_of_find?_eq_some hf)) ?_⟩
      simpa using hb

/-- A name occurs in a group iff some use has both. -/
theorem occurs_iff {stages : List ShaderInterface} {g : Nat} :
    (∃ n, occurrences stages g n ≠ []) ↔ ∃ u ∈ uses stages, u.2.group = g := by
  constructor
  · rintro ⟨n, hn⟩
    obtain ⟨u, hu⟩ := List.exists_mem_of_ne_nil _ hn
    exact ⟨u, (mem_occurrences.1 hu).1, (mem_occurrences.1 hu).2.1⟩
  · rintro ⟨u, hu, hg⟩
    exact ⟨u.2.name, List.ne_nil_of_mem (mem_occurrences.2 ⟨hu, hg, rfl⟩)⟩

/-- The groups of a merge, as they come out one by one. -/
theorem merge_eq_ok_iff {stages : List ShaderInterface} {limit : Nat} {gs : List MergedGroup} :
    merge stages limit = .ok gs ↔ (∀ i ∈ stages, checkGroups limit i = .ok ()) ∧
      List.Forall₂ (fun g grp => mergeGroup stages g = .ok grp)
        (List.range (groupSpan stages)) gs := by
  rw [merge, bind_eq_ok_iff, ← mapM_eq_ok_iff, ← forM_eq_ok_iff]
  exact ⟨fun ⟨_, h, h'⟩ => ⟨h, h'⟩, fun ⟨h, h'⟩ => ⟨(), h, h'⟩⟩

/-- Each group of a merge is the merge of the group of its number. -/
theorem mergeGroup_of_getElem? {stages : List ShaderInterface} {limit : Nat}
    {gs : List MergedGroup} (h : merge stages limit = .ok gs) {g : Nat} {grp : MergedGroup}
    (hg : gs[g]? = some grp) : mergeGroup stages g = .ok grp := by
  have hall := (merge_eq_ok_iff.1 h).2
  obtain ⟨hlt, rfl⟩ := List.getElem?_eq_some_iff.1 hg
  have hr : g < (List.range (groupSpan stages)).length := hall.length_eq ▸ hlt
  simpa using hall.get hr hlt

theorem length_of_merge {stages : List ShaderInterface} {limit : Nat} {gs : List MergedGroup}
    (h : merge stages limit = .ok gs) : gs.length = groupSpan stages := by
  simpa using (merge_eq_ok_iff.1 h).2.length_eq.symm

theorem merges_of_merge {stages : List ShaderInterface} {limit : Nat} {gs : List MergedGroup}
    (h : merge stages limit = .ok gs) : Merges stages gs where
  used g n hn := by
    obtain ⟨u, hu, rfl⟩ := occurs_iff.1 ⟨n, hn⟩
    rw [length_of_merge h]
    exact (groupSpan_spec stages).1 u hu
  least g hg := occurs_iff.2 ((groupSpan_spec stages).2 g (length_of_merge h ▸ hg))
  group _ _ hg := mergesGroup_of_mergeGroup (mergeGroup_of_getElem? h hg)

/-- What could be merged was mergeable. -/
theorem mergeable_of_merge {stages : List ShaderInterface} {limit : Nat} {gs : List MergedGroup}
    (h : merge stages limit = .ok gs) : Mergeable stages limit := by
  have hcheck := fun i hi => checkGroups_eq_ok_iff.1 ((merge_eq_ok_iff.1 h).1 i hi)
  have hm := merges_of_merge h
  -- A name that occurs stands in a group of the merge.
  have hfind : ∀ g n u, u ∈ occurrences stages g n → ∃ grp, gs[g]? = some grp ∧
      MergesGroup stages g grp.bindings ∧ ∃ m ∈ grp.bindings, m.name = n := by
    intro g n u hu
    have hlt := hm.used g n (List.ne_nil_of_mem hu)
    have hgrp := (hm.group g _ (List.getElem?_eq_getElem hlt)).2
    exact ⟨_, List.getElem?_eq_getElem hlt, hgrp, hgrp.complete n (List.ne_nil_of_mem hu)⟩
  refine ⟨fun i hi => (hcheck i hi).1, fun i hi => (hcheck i hi).2, ?_, ?_⟩
  · intro g n u hu v hv
    obtain ⟨grp, -, hgrp, m, hmem, rfl⟩ := hfind g n u hu
    have hj := hgrp.joins m hmem
    rw [hj.kind u hu, hj.kind v hv]
  · intro g n n' u u' hu hu' hslot
    obtain ⟨grp, hgs, hgrp, m, hmem, rfl⟩ := hfind g n u (List.mem_of_getLast? hu)
    obtain ⟨grp', hgs', -, m', hmem', rfl⟩ := hfind g n' u' (List.mem_of_getLast? hu')
    rw [hgs] at hgs'
    cases hgs'
    obtain ⟨v, hv, hvb, -⟩ := (hgrp.joins m hmem).last
    obtain ⟨v', hv', hvb', -⟩ := (hgrp.joins m' hmem').last
    rw [hu] at hv
    rw [hu'] at hv'
    cases hv
    cases hv'
    have hnd : (grp.bindings.map MergedBinding.binding).Nodup :=
      List.pairwise_map.2 (hgrp.ascending.imp Nat.ne_of_lt)
    exact congrArg MergedBinding.name
      (List.inj_on_of_nodup_map hnd hmem hmem' (by rw [hvb, hvb', hslot]))

theorem Mergeable.exists_merge {stages : List ShaderInterface} {limit : Nat}
    (h : Mergeable stages limit) : ∃ gs, merge stages limit = .ok gs := by
  choose f hf using h.exists_mergeGroup
  refine ⟨(List.range (groupSpan stages)).map f, merge_eq_ok_iff.2 ⟨fun i hi => ?_, ?_⟩⟩
  · exact checkGroups_eq_ok_iff.2 ⟨h.few i hi, h.below i hi⟩
  · rw [List.forall₂_map_right_iff, List.forall₂_same]
    exact fun g _ => hf g

/-- The stages leave nothing open about the merged groups. -/
theorem Merges.eq {stages : List ShaderInterface} {gs gs' : List MergedGroup}
    (h : Merges stages gs) (h' : Merges stages gs') : gs = gs' := by
  -- The last group of either list is used, so that the other has it too.
  have hle : ∀ {xs ys}, Merges stages xs → Merges stages ys → xs.length ≤ ys.length := by
    intro xs ys hxs hys
    rcases hlen : xs.length with _ | g
    · exact Nat.zero_le _
    · obtain ⟨n, hn⟩ := hxs.least g hlen
      exact hys.used g n hn
  refine List.ext_getElem (Nat.le_antisymm (hle h h') (hle h' h)) fun g hg hg' => ?_
  obtain ⟨hi, hm⟩ := h.group g _ (List.getElem?_eq_getElem hg)
  obtain ⟨hi', hm'⟩ := h'.group g _ (List.getElem?_eq_getElem hg')
  have hb := hm.eq hm'
  generalize gs[g] = a at hi hb
  generalize gs'[g] = b at hi' hb
  cases a; cases b
  simp_all

/-- **Merging.** It succeeds iff the stages are mergeable, and then gives exactly the groups that
the stages ask for. -/
theorem merge_spec (stages : List ShaderInterface) (limit : Nat) :
    ((∃ gs, merge stages limit = .ok gs) ↔ Mergeable stages limit) ∧
      ∀ gs, merge stages limit = .ok gs ↔ Mergeable stages limit ∧ Merges stages gs := by
  refine ⟨⟨fun ⟨gs, h⟩ => mergeable_of_merge h, Mergeable.exists_merge⟩, fun gs => ?_⟩
  constructor
  · exact fun h => ⟨mergeable_of_merge h, merges_of_merge h⟩
  · rintro ⟨hm, hgs⟩
    obtain ⟨gs', hgs'⟩ := hm.exists_merge
    rw [hgs', (merges_of_merge hgs').eq hgs]

end PassForge
