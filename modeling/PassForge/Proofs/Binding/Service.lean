import Mathlib
import PassForge.Proofs.Binding.Merge

/-!
# Which stages are served by merged bindings

A stage finds a binding where it was compiled to look for it if the merged group has an entry at the
same slot, with the same name and kind, that the stage sees and that is large enough.

* `exists_stage_not_served`: merging can succeed and leave a stage unserved. Slot and size of a
  merged binding are those of the last stage, whatever the earlier stages ask for.
* `served_spec`: name, kind and visibility always suit every stage. A use is served exactly if the
  last use of its name in its group has the same slot and is at least as large.
-/

namespace PassForge

/-- Whether a size that is offered is at least as large as one that is asked for. -/
def SizeCovers (offered wanted : Option Nat) : Prop :=
  ∀ n, wanted = some n → ∃ k, offered = some k ∧ n ≤ k

/-- A binding of a stage finds an entry at its own slot that suits it. -/
def Served (gs : List MergedGroup) (s : Stage) (b : ShaderBinding) : Prop :=
  ∃ grp, gs[b.group]? = some grp ∧ ∃ m ∈ grp.bindings, m.binding = b.binding ∧ m.name = b.name ∧
    m.kind = b.kind ∧ m.visibility.sees s = true ∧ SizeCovers m.size b.size

/-- The entry that merged groups have for a use of a binding. -/
theorem exists_entry {stages : List ShaderInterface} {gs : List MergedGroup}
    (h : Merges stages gs) {i : ShaderInterface} (hi : i ∈ stages) {b : ShaderBinding}
    (hb : b ∈ i.bindings) :
    ∃ grp, gs[b.group]? = some grp ∧ grp.index = b.group ∧ ∃ m ∈ grp.bindings, m.name = b.name ∧
      (∀ x ∈ grp.bindings, x.name = b.name → x = m) ∧
      m.Joins (occurrences stages b.group b.name) ∧
      m.kind = b.kind ∧ m.visibility.sees i.stage = true := by
  have hu : (i.stage, b) ∈ occurrences stages b.group b.name :=
    mem_occurrences.2 ⟨mem_uses.2 ⟨i, hi, rfl, hb⟩, rfl, rfl⟩
  have hlt := h.used b.group b.name (List.ne_nil_of_mem hu)
  obtain ⟨hidx, hgrp⟩ := h.group b.group _ (List.getElem?_eq_getElem hlt)
  obtain ⟨m, hm, hn⟩ := hgrp.complete b.name (List.ne_nil_of_mem hu)
  have hj := hn ▸ hgrp.joins m hm
  refine ⟨_, List.getElem?_eq_getElem hlt, hidx, m, hm, hn, fun x hx hxn => ?_, hj, ?_, ?_⟩
  · exact List.inj_on_of_nodup_map hgrp.once hx hm (hxn.trans hn.symm)
  · exact (hj.kind _ hu).symm
  · exact (hj.sees _).2 ⟨_, hu, rfl⟩

/-- What the names and kinds of the merged bindings satisfy is what those of the stages do. -/
theorem forall_merged_iff {stages : List ShaderInterface} {gs : List MergedGroup}
    (h : Merges stages gs) {P : String → ResourceKind → Prop} :
    (∀ g ∈ gs, ∀ m ∈ g.bindings, P m.name m.kind) ↔
      ∀ i ∈ stages, ∀ b ∈ i.bindings, P b.name b.kind := by
  constructor
  · intro hP i hi b hb
    obtain ⟨grp, hgs, -, m, hm, hn, -, -, hk, -⟩ := exists_entry h hi hb
    exact hn ▸ hk ▸ hP grp (List.mem_of_getElem? hgs) m hm
  · intro hP g hg m hm
    obtain ⟨j, hj⟩ := List.mem_iff_getElem?.1 hg
    have hjoins := (h.group j g hj).2.joins m hm
    obtain ⟨u, hu⟩ := hjoins.exists_mem
    obtain ⟨hmem, -, hn⟩ := mem_occurrences.1 hu
    obtain ⟨i, hi, -, hb⟩ := mem_uses.1 hmem
    exact hn ▸ hjoins.kind u hu ▸ hP i hi u.2 hb

/-- A vertex stage reads 64 bytes of a uniform buffer and a fragment stage 16 bytes of the one with
the same name. -/
def narrowing : List ShaderInterface := [
  { entryPoint := "vs_main", stage := .vertex,
    bindings := [⟨"camera", 0, 0, .uniformBuffer, some 64⟩] },
  { entryPoint := "fs_main", stage := .fragment,
    bindings := [⟨"camera", 0, 0, .uniformBuffer, some 16⟩] }]

theorem merge_narrowing : merge narrowing 4 = .ok [⟨0, [⟨"camera", 0, .uniformBuffer, some 16,
    { vertex := true, fragment := true }⟩]⟩] := by cbv

/-- **A stage is left unserved.** The stages of `narrowing` merge into a binding of 16 bytes, which
is less than the vertex stage reads. -/
theorem exists_stage_not_served :
    ¬ ∀ (stages : List ShaderInterface) (limit : Nat) (gs : List MergedGroup),
      merge stages limit = .ok gs → ∀ i ∈ stages, ∀ b ∈ i.bindings, Served gs i.stage b := by
  intro h
  obtain ⟨grp, hgrp, m, hm, -, -, -, -, hsize⟩ :=
    h narrowing 4 _ merge_narrowing _ (List.mem_cons_self ..) _ (List.mem_cons_self ..)
  cases hgrp
  rw [List.mem_singleton.1 hm] at hsize
  obtain ⟨k, hk, hle⟩ := hsize 64 rfl
  cases hk
  omega

/-- **What a stage finds.** Whenever merging succeeds, the group of a binding that a stage uses has
exactly one entry of its name. It is of the same kind, the stage sees it, and slot and size are those
of the last use of the name in the group. So the binding is served at its own slot exactly if that
last use has the same slot and is at least as large; at another slot, no entry of the name is there. -/
theorem served_spec {stages : List ShaderInterface} {limit : Nat} {gs : List MergedGroup}
    (h : merge stages limit = .ok gs) {i : ShaderInterface} (hi : i ∈ stages) {b : ShaderBinding}
    (hb : b ∈ i.bindings) :
    ∃ grp u, gs[b.group]? = some grp ∧ grp.index = b.group ∧
      (occurrences stages b.group b.name).getLast? = some u ∧
      (∃! m, m ∈ grp.bindings ∧ m.name = b.name) ∧
      (∀ m ∈ grp.bindings, m.name = b.name → m.kind = b.kind ∧
        m.visibility.sees i.stage = true ∧ m.binding = u.2.binding ∧ m.size = u.2.size) ∧
      (Served gs i.stage b ↔ u.2.binding = b.binding ∧ SizeCovers u.2.size b.size) ∧
      (u.2.binding ≠ b.binding → ∀ m ∈ grp.bindings, m.binding = b.binding → m.name ≠ b.name) := by
  obtain ⟨grp, hgs, hidx, m, hm, hn, huniq, hj, hk, hv⟩ := exists_entry (merges_of_merge h) hi hb
  obtain ⟨u, hu, hslot, hsize⟩ := hj.last
  refine ⟨grp, u, hgs, hidx, hu, ⟨m, ⟨hm, hn⟩, fun x hx => huniq x hx.1 hx.2⟩, ?_, ⟨?_, ?_⟩, ?_⟩
  · intro x hx hxn
    rw [huniq x hx hxn]
    exact ⟨hk, hv, hslot, hsize⟩
  · rintro ⟨grp', hgs', x, hx, hxb, hxn, -, -, hxs⟩
    rw [hgs] at hgs'
    cases hgs'
    rw [huniq x hx hxn] at hxb hxs
    exact ⟨hslot ▸ hxb, hsize ▸ hxs⟩
  · rintro ⟨hub, hus⟩
    exact ⟨grp, hgs, m, hm, hslot.trans hub, hn, hk, hv, hsize ▸ hus⟩
  · intro hne x hx hxb hxn
    rw [huniq x hx hxn] at hxb
    exact hne (hslot ▸ hxb)

/-- The stages of `narrowing` merge, and the vertex stage finds an entry of its name. -/
theorem served_spec_narrowing :
    ∃ gs, merge narrowing 4 = .ok gs ∧ narrowing[0] ∈ narrowing ∧
      ⟨"camera", 0, 0, .uniformBuffer, some 64⟩ ∈ narrowing[0].bindings ∧
      ∃ grp, gs[0]? = some grp ∧ ∃! m, m ∈ grp.bindings ∧ m.name = "camera" := by
  have hi : narrowing[0] ∈ narrowing := List.mem_cons_self ..
  have hb : ⟨"camera", 0, 0, .uniformBuffer, some 64⟩ ∈ narrowing[0].bindings :=
    List.mem_cons_self ..
  obtain ⟨grp, -, hgrp, -, -, huniq, -⟩ := served_spec merge_narrowing hi hb
  exact ⟨_, merge_narrowing, hi, hb, grp, hgrp, huniq⟩

end PassForge
