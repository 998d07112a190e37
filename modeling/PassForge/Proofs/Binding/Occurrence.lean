import Mathlib.Data.List.Induction
import Mathlib.Data.List.Nodup
import PassForge.Binding.Merge
import PassForge.Proofs.Checks

/-!
# Occurrences of a binding

What the stages of a pipeline say about one name of one group, and how the uses of a group are
collected name by name.

* `occurrences` lists the uses of a name in a group, stage after stage.
* `MergedBinding.Joins`: a merged binding is the join of some uses. It has the slot and the size of
  the last of them, the kind of all, and exactly their stages see it.
* `Collects`: merged bindings stand for some uses, one for each name.
* `exists_collect_iff`: uses can be collected iff uses of one name agree in kind.
-/

namespace PassForge

/-- Whether a stage is in a set of stages. -/
def Visibility.sees (v : Visibility) : Stage → Bool
  | .vertex => v.vertex
  | .fragment => v.fragment
  | .compute => v.compute

theorem Visibility.sees_union (a b : Visibility) (s : Stage) :
    (a.union b).sees s = (a.sees s || b.sees s) := by
  cases s <;> rfl

theorem Stage.sees_visibility (s t : Stage) : s.visibility.sees t = true ↔ s = t := by
  cases s <;> cases t <;> decide

theorem Visibility.ext_sees {a b : Visibility} (h : ∀ s, a.sees s = b.sees s) : a = b := by
  cases a; cases b
  exact congr (congr (congrArg Visibility.mk (h .vertex)) (h .fragment)) (h .compute)

/-- A binding as one stage uses it. -/
abbrev Use := Stage × ShaderBinding

/-- Every use of a binding, stage after stage. -/
def uses (stages : List ShaderInterface) : List Use :=
  stages.flatMap fun i => i.bindings.map fun b => (i.stage, b)

/-- The uses of a name in a group, stage after stage. -/
def occurrences (stages : List ShaderInterface) (group : Nat) (name : String) : List Use :=
  (uses stages).filter fun u => u.2.group = group ∧ u.2.name = name

theorem mem_uses {stages : List ShaderInterface} {u : Use} :
    u ∈ uses stages ↔ ∃ i ∈ stages, i.stage = u.1 ∧ u.2 ∈ i.bindings := by
  simp only [uses, List.mem_flatMap, List.mem_map]
  constructor
  · rintro ⟨i, hi, b, hb, rfl⟩
    exact ⟨i, hi, rfl, hb⟩
  · rintro ⟨i, hi, hs, hb⟩
    exact ⟨i, hi, u.2, hb, by rw [hs]⟩

theorem mem_occurrences {stages : List ShaderInterface} {g : Nat} {n : String} {u : Use} :
    u ∈ occurrences stages g n ↔ u ∈ uses stages ∧ u.2.group = g ∧ u.2.name = n := by
  simp [occurrences]

/-- The uses of a group are those of its number among all. -/
theorem groupUses_eq_filter (stages : List ShaderInterface) (g : Nat) :
    groupUses stages g = (uses stages).filter fun u => u.2.group = g := by
  simp only [groupUses, uses, List.filter_flatMap, List.filter_map, ShaderInterface.inGroup,
    Function.comp_def]

/-- Those of some uses that are uses of a name. -/
def named (us : List Use) (name : String) : List Use := us.filter fun u => u.2.name = name

theorem mem_named {us : List Use} {n : String} {u : Use} :
    u ∈ named us n ↔ u ∈ us ∧ u.2.name = n := by
  simp [named]

theorem named_snoc (us : List Use) (u : Use) (n : String) :
    named (us ++ [u]) n = if u.2.name = n then named us n ++ [u] else named us n := by
  by_cases h : u.2.name = n <;> simp [named, List.filter_append, h]

/-- The uses of a name among the uses of a group. -/
theorem named_groupUses (stages : List ShaderInterface) (g : Nat) (n : String) :
    named (groupUses stages g) n = occurrences stages g n := by
  rw [named, groupUses_eq_filter, List.filter_filter, occurrences]
  congr 1
  funext u
  simp [Bool.and_comm]

/-! ## The join of uses -/

/-- A merged binding is the join of some uses. -/
structure MergedBinding.Joins (m : MergedBinding) (us : List Use) : Prop where
  /-- Slot and size are those of the last use. -/
  last : ∃ u, us.getLast? = some u ∧ m.binding = u.2.binding ∧ m.size = u.2.size
  /-- All uses are of the kind. -/
  kind : ∀ u ∈ us, u.2.kind = m.kind
  /-- The stages of the uses see the binding, and no others. -/
  sees : ∀ s, m.visibility.sees s = true ↔ ∃ u ∈ us, u.1 = s

namespace MergedBinding

theorem Joins.exists_mem {m : MergedBinding} {us : List Use} (h : m.Joins us) : ∃ u, u ∈ us := by
  obtain ⟨u, hu, -⟩ := h.last
  exact ⟨u, List.mem_of_getLast? hu⟩

/-- Two joins of the same uses under one name are equal. -/
theorem Joins.eq {m m' : MergedBinding} {us : List Use} (h : m.Joins us) (h' : m'.Joins us)
    (hn : m.name = m'.name) : m = m' := by
  obtain ⟨u, hu, hb, hs⟩ := h.last
  obtain ⟨v, hv, hb', hs'⟩ := h'.last
  rw [hu] at hv
  cases hv
  have hk : m.kind = m'.kind := by
    rw [← h.kind u (List.mem_of_getLast? hu), h'.kind u (List.mem_of_getLast? hu)]
  have hv : m.visibility = m'.visibility := Visibility.ext_sees fun s => by
    rw [Bool.eq_iff_iff, h.sees, h'.sees]
  cases m; cases m'
  simp_all

theorem joins_ofUse (s : Stage) (b : ShaderBinding) : (ofUse s b).Joins [(s, b)] where
  last := ⟨(s, b), rfl, rfl, rfl⟩
  kind := by simp [ofUse]
  sees t := by simp [ofUse, Stage.sees_visibility]

/-- A later use of the same kind joins. -/
theorem Joins.join {m m' : MergedBinding} {us : List Use} {s : Stage} {b : ShaderBinding}
    (h : m.Joins us) (hm : m.join s b = .ok m') : m'.Joins (us ++ [(s, b)]) ∧ m'.name = m.name := by
  unfold MergedBinding.join at hm
  split at hm
  · next hk =>
    cases hm
    refine ⟨⟨⟨(s, b), by simp⟩, fun u hu => ?_, fun t => ?_⟩, rfl⟩
    · rcases List.mem_append.1 hu with hu | hu
      · exact h.kind u hu
      · rw [List.mem_singleton.1 hu]; exact hk.symm
    · simp [Visibility.sees_union, h.sees, Stage.sees_visibility, or_and_right, exists_or]
  · cases hm

end MergedBinding

/-! ## Collecting uses -/

/-- Merged bindings stand for some uses, one for each name. -/
structure Collects (us : List Use) (ms : List MergedBinding) : Prop where
  /-- No name stands twice. -/
  once : (ms.map MergedBinding.name).Nodup
  /-- Every name that is used stands there. -/
  complete : ∀ u ∈ us, ∃ m ∈ ms, m.name = u.2.name
  /-- Each binding joins the uses of its name. -/
  joins : ∀ m ∈ ms, m.Joins (named us m.name)

/-- Uses of one name are of one kind. -/
def KindsAgree (us : List Use) : Prop :=
  ∀ u ∈ us, ∀ v ∈ us, u.2.name = v.2.name → u.2.kind = v.2.kind

theorem Collects.nil : Collects [] [] := ⟨.nil, by simp, by simp⟩

theorem Collects.kindsAgree {us : List Use} {ms : List MergedBinding} (h : Collects us ms) :
    KindsAgree us := by
  intro u hu v hv hn
  obtain ⟨m, hm, hmu⟩ := h.complete u hu
  have hj := h.joins m hm
  rw [hj.kind u (mem_named.2 ⟨hu, hmu.symm⟩), hj.kind v (mem_named.2 ⟨hv, by rw [hmu, hn]⟩)]

/-- Bindings of other names are passed by. -/
theorem addUse_append {s : Stage} {b : ShaderBinding} {pre rest : List MergedBinding}
    (h : ∀ m ∈ pre, m.name ≠ b.name) :
    addUse s b (pre ++ rest) = (addUse s b rest).map (pre ++ ·) := by
  induction pre with
  | nil => cases hr : addUse s b rest <;> simp [Except.map, hr]
  | cons m pre ih =>
    have ⟨hm, hpre⟩ := List.forall_mem_cons.1 h
    rw [List.cons_append, addUse, if_neg hm, ih hpre]
    cases addUse s b rest <;> rfl

/-- A use of a name that stands nowhere stands at the end. -/
theorem addUse_of_new {s : Stage} {b : ShaderBinding} {ms : List MergedBinding}
    (hnew : ∀ m ∈ ms, m.name ≠ b.name) : addUse s b ms = .ok (ms ++ [.ofUse s b]) := by
  simpa [addUse, Except.map] using @addUse_append s b ms [] hnew

/-- A use of a name that stands somewhere joins the first binding of that name. -/
theorem addUse_of_old {s : Stage} {b : ShaderBinding} {pre post : List MergedBinding}
    {m : MergedBinding} (hpre : ∀ x ∈ pre, x.name ≠ b.name) (hn : m.name = b.name) :
    addUse s b (pre ++ m :: post) = (m.join s b).map (pre ++ · :: post) := by
  rw [addUse_append hpre, addUse, if_pos hn]
  cases m.join s b <;> rfl

/-- The bindings beside the one of a name have other names. -/
theorem Collects.other_name {us : List Use} {pre post : List MergedBinding} {m : MergedBinding}
    (h : Collects us (pre ++ m :: post)) : ∀ x ∈ pre ++ post, x.name ≠ m.name := by
  have hnd := h.once
  simp only [List.map_append, List.map_cons, List.nodup_middle, List.nodup_cons] at hnd
  intro x hx hxm
  rw [← List.map_append] at hnd
  exact hnd.1 (hxm ▸ List.mem_map_of_mem hx)

theorem Collects.snoc_new {us : List Use} {ms : List MergedBinding} {s : Stage}
    {b : ShaderBinding} (h : Collects us ms) (hnew : ∀ m ∈ ms, m.name ≠ b.name) :
    Collects (us ++ [(s, b)]) (ms ++ [.ofUse s b]) := by
  refine ⟨?_, fun u hu => ?_, fun m hm => ?_⟩
  · simpa [List.nodup_append, h.once, MergedBinding.ofUse] using hnew
  · rcases List.mem_append.1 hu with hu | hu
    · obtain ⟨m, hm, hn⟩ := h.complete u hu
      exact ⟨m, List.mem_append_left _ hm, hn⟩
    · rw [List.mem_singleton.1 hu]
      exact ⟨.ofUse s b, by simp, rfl⟩
  · rcases List.mem_append.1 hm with hm | hm
    · rw [named_snoc, if_neg (hnew m hm).symm]
      exact h.joins m hm
    · rw [List.mem_singleton.1 hm]
      -- No earlier use has the name: it would stand among the bindings.
      have hnone : named us b.name = [] := by
        refine List.filter_eq_nil_iff.2 fun u hu hn => ?_
        obtain ⟨m, hm, hmu⟩ := h.complete u hu
        exact hnew m hm (hmu.trans (by simpa using hn))
      have hname : (MergedBinding.ofUse s b).name = b.name := rfl
      rw [hname, named_snoc, if_pos rfl, hnone]
      exact MergedBinding.joins_ofUse s b

theorem Collects.snoc_old {us : List Use} {pre post : List MergedBinding} {m m' : MergedBinding}
    {s : Stage} {b : ShaderBinding} (h : Collects us (pre ++ m :: post)) (hn : m.name = b.name)
    (hm : m.join s b = .ok m') : Collects (us ++ [(s, b)]) (pre ++ m' :: post) := by
  obtain ⟨hj, hname⟩ := (h.joins m (by simp)).join hm
  have hnames : (pre ++ m' :: post).map MergedBinding.name =
      (pre ++ m :: post).map MergedBinding.name := by simp [hname]
  refine ⟨hnames ▸ h.once, fun u hu => ?_, fun x hx => ?_⟩
  · have hmem : u.2.name ∈ (pre ++ m :: post).map MergedBinding.name := by
      rcases List.mem_append.1 hu with hu | hu
      · obtain ⟨x, hx, hxu⟩ := h.complete u hu
        exact hxu ▸ List.mem_map_of_mem hx
      · rw [List.mem_singleton.1 hu, ← hn]
        simp
    rw [← hnames] at hmem
    exact List.mem_map.1 hmem
  · have hcases : x = m' ∨ x ∈ pre ++ post := by
      simp only [List.mem_append, List.mem_cons] at hx ⊢
      tauto
    rcases hcases with rfl | hx
    · rw [named_snoc, if_pos (hn.symm.trans hname.symm), hname]
      exact hj
    · rw [named_snoc, if_neg (hn ▸ (h.other_name x hx).symm)]
      refine h.joins x ?_
      simp only [List.mem_append, List.mem_cons] at hx ⊢
      tauto

/-- A name stands nowhere among some bindings, or there is a first binding of the name. -/
theorem new_or_old (ms : List MergedBinding) (n : String) :
    (∀ m ∈ ms, m.name ≠ n) ∨
      ∃ pre m post, ms = pre ++ m :: post ∧ m.name = n ∧ ∀ x ∈ pre, x.name ≠ n := by
  induction ms with
  | nil => exact .inl (by simp)
  | cons m ms ih =>
    by_cases hn : m.name = n
    · exact .inr ⟨[], m, ms, rfl, hn, by simp⟩
    · rcases ih with h | ⟨pre, x, post, rfl, hx, hpre⟩
      · exact .inl (List.forall_mem_cons.2 ⟨hn, h⟩)
      · exact .inr ⟨m :: pre, x, post, rfl, hx, List.forall_mem_cons.2 ⟨hn, hpre⟩⟩

/-- Adding a use keeps bindings collected. -/
theorem Collects.addUse {us : List Use} {ms ms' : List MergedBinding} {s : Stage}
    {b : ShaderBinding} (h : Collects us ms) (hb : addUse s b ms = .ok ms') :
    Collects (us ++ [(s, b)]) ms' := by
  rcases new_or_old ms b.name with hnew | ⟨pre, m, post, rfl, hn, hpre⟩
  · rw [addUse_of_new hnew] at hb
    cases hb
    exact h.snoc_new hnew
  · rw [addUse_of_old hpre hn] at hb
    cases hj : m.join s b with
    | error e => rw [hj] at hb; cases hb
    | ok m' =>
      rw [hj] at hb
      cases hb
      exact h.snoc_old hn hj

/-- A use can be added if it agrees in kind with the uses so far. -/
theorem Collects.exists_addUse {us : List Use} {ms : List MergedBinding} {u : Use}
    (h : Collects us ms) (hk : KindsAgree (us ++ [u])) :
    ∃ ms', PassForge.addUse u.1 u.2 ms = .ok ms' := by
  rcases new_or_old ms u.2.name with hnew | ⟨pre, m, post, rfl, hn, hpre⟩
  · exact ⟨_, addUse_of_new hnew⟩
  · have hj := h.joins m (by simp)
    obtain ⟨v, hv⟩ := hj.exists_mem
    obtain ⟨hv', hvn⟩ := mem_named.1 hv
    have hkind : m.kind = u.2.kind := by
      rw [← hj.kind v hv]
      exact hk v (by simp [hv']) u (by simp) (hvn.trans hn)
    rw [addUse_of_old hpre hn, MergedBinding.join, if_pos hkind]
    exact ⟨_, rfl⟩

/-- What collecting some uses gives. -/
def collect (us : List Use) : Except CompileError (List MergedBinding) :=
  us.foldlM (fun ms u => addUse u.1 u.2 ms) []

theorem collect_snoc (us : List Use) (u : Use) :
    collect (us ++ [u]) = collect us >>= addUse u.1 u.2 := by
  simp [collect, List.foldlM_append]

/-- What is collected stands for the uses. -/
theorem collects_of_collect {us : List Use} {ms : List MergedBinding}
    (h : collect us = .ok ms) : Collects us ms := by
  induction us using List.reverseRecOn generalizing ms with
  | nil => cases h; exact .nil
  | append_singleton us u ih =>
    rw [collect_snoc] at h
    obtain ⟨old, hold, hu⟩ := bind_eq_ok_iff.1 h
    exact (ih hold).addUse hu

/-- Uses can be collected iff uses of one name agree in kind. -/
theorem exists_collect_iff {us : List Use} : (∃ ms, collect us = .ok ms) ↔ KindsAgree us := by
  constructor
  · rintro ⟨ms, h⟩
    exact (collects_of_collect h).kindsAgree
  · induction us using List.reverseRecOn with
    | nil => exact fun _ => ⟨[], rfl⟩
    | append_singleton us u ih =>
      intro hk
      obtain ⟨old, hold⟩ := ih fun x hx y hy => hk x (by simp [hx]) y (by simp [hy])
      obtain ⟨ms, hms⟩ := (collects_of_collect hold).exists_addUse hk
      exact ⟨ms, by rw [collect_snoc, hold]; exact hms⟩

end PassForge
