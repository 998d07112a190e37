import PassForge.Proofs.Binding.Merge
import PassForge.Shader.Reflect

/-!
# The bindings of one stage

The stage of a compute pass shares its groups with no other. If no two of its bindings have one name, as
in a module whose globals have kept their names, nothing can disagree, and its bindings can be merged
exactly if they keep to the limit and to slots of their own.

* `ShaderInterface.Groupable` says so; `mergeable_singleton_iff` is the equivalence.
* `ShaderModule.nodup_names_of_reflect`: the globals of a module with different names report bindings
  with different names.
-/

namespace PassForge

/-- The bindings of a stage keep to the limit for groups and to slots of their own. -/
structure ShaderInterface.Groupable (i : ShaderInterface) (limit : Nat) : Prop where
  /-- The stage uses fewer different groups than the limit. -/
  few : (i.bindings.map ShaderBinding.group).toFinset.card < limit
  /-- Each group that is used is below the limit. -/
  below : ∀ b ∈ i.bindings, b.group < limit
  /-- No two names share a slot. -/
  slot : ∀ b ∈ i.bindings, ∀ b' ∈ i.bindings, b.group = b'.group → b.binding = b'.binding →
    b.name = b'.name

section Single

variable {i : ShaderInterface} {limit : Nat}

theorem mem_occurrences_singleton {g : Nat} {n : String} {u : Use} :
    u ∈ occurrences [i] g n ↔ ∃ b ∈ i.bindings, u = (i.stage, b) ∧ b.group = g ∧ b.name = n := by
  rw [mem_occurrences, mem_uses]
  constructor
  · rintro ⟨⟨j, hj, hs, hb⟩, hg, hn⟩
    rw [List.mem_singleton.1 hj] at hs hb
    exact ⟨u.2, hb, by rw [hs], hg, hn⟩
  · rintro ⟨b, hb, rfl, hg, hn⟩
    exact ⟨⟨i, List.mem_singleton_self i, rfl, hb⟩, hg, hn⟩

variable (hn : (i.bindings.map ShaderBinding.name).Nodup)
include hn

/-- A binding is the only use of its name. -/
theorem eq_of_mem_occurrences {b : ShaderBinding} (hb : b ∈ i.bindings) {u : Use}
    (hu : u ∈ occurrences [i] b.group b.name) : u = (i.stage, b) := by
  obtain ⟨b', hb', rfl, -, hname⟩ := mem_occurrences_singleton.1 hu
  rw [List.inj_on_of_nodup_map hn hb' hb hname]

theorem getLast?_occurrences {b : ShaderBinding} (hb : b ∈ i.bindings) :
    (occurrences [i] b.group b.name).getLast? = some (i.stage, b) := by
  have hmem : (i.stage, b) ∈ occurrences [i] b.group b.name :=
    mem_occurrences_singleton.2 ⟨b, hb, rfl, rfl, rfl⟩
  have hlast := List.getLast?_eq_some_getLast (List.ne_nil_of_mem hmem)
  rw [hlast, eq_of_mem_occurrences hn hb (List.getLast_mem _)]

/-- **When the bindings of one stage can be merged.** -/
theorem mergeable_singleton_iff : Mergeable [i] limit ↔ i.Groupable limit := by
  constructor
  · intro h
    refine ⟨h.few i (List.mem_singleton_self i), h.below i (List.mem_singleton_self i), ?_⟩
    intro b hb b' hb' hg hslot
    have hlast' := getLast?_occurrences hn hb'
    rw [← hg] at hlast'
    exact h.slot b.group b.name b'.name _ _ (getLast?_occurrences hn hb) hlast' hslot
  · intro h
    refine ⟨fun j hj => ?_, fun j hj => ?_, fun g n u hu v hv => ?_,
      fun g n n' u u' hu hu' hslot => ?_⟩
    · exact List.mem_singleton.1 hj ▸ h.few
    · exact List.mem_singleton.1 hj ▸ h.below
    · obtain ⟨b, hb, rfl, rfl, rfl⟩ := mem_occurrences_singleton.1 hu
      rw [eq_of_mem_occurrences hn hb hv]
    · obtain ⟨b, hb, rfl, hg, rfl⟩ := mem_occurrences_singleton.1 (List.mem_of_getLast? hu)
      obtain ⟨b', hb', rfl, hg', rfl⟩ := mem_occurrences_singleton.1 (List.mem_of_getLast? hu')
      exact h.slot b hb b' hb' (hg.trans hg'.symm) hslot

end Single

/-! ## Names -/

/-- What is selected from a list, under a function that does not depend on the selection. -/
theorem map_filterMap_sublist {α β γ : Type} {f : α → Option β} {h : β → γ} {k : α → γ}
    (hk : ∀ a b, f a = some b → h b = k a) (l : List α) :
    ((l.filterMap f).map h).Sublist (l.map k) := by
  induction l with
  | nil => exact .slnil
  | cons a l ih =>
    rw [List.map_cons, List.filterMap_cons]
    cases hf : f a with
    | none => exact ih.cons _
    | some b =>
      rw [List.map_cons, hk a b hf]
      exact ih.cons_cons _

namespace ShaderModule

variable {m : ShaderModule}

theorem reflectGlobal_name {g : Global} {slot : Slot} {b : ShaderBinding} (hm : m.named = true)
    (h : m.reflectGlobal g slot = .ok b) : b.name = g.name := by
  unfold reflectGlobal at h
  simp only [] at h
  split at h
  · cases h
  · cases h
    exact if_pos hm

/-- The bindings of an interface are the reported globals, in another order. -/
theorem bindings_of_entryInterface {e : EntryPoint} {stage : Stage} {i : ShaderInterface}
    (h : m.entryInterface e stage = .ok i) : ∃ bindings, i.bindings.Perm bindings ∧
      List.Forall₂ (fun p b => m.reflectGlobal p.1 p.2 = .ok b) (m.boundGlobals e) bindings := by
  obtain ⟨bindings, hbindings, h⟩ := bind_eq_ok_iff.1 h
  refine ⟨bindings, ?_, mapM_eq_ok_iff.1 hbindings⟩
  simp only [] at h
  split at h
  all_goals
    obtain ⟨inputs, -, h⟩ := bind_eq_ok_iff.1 h
    cases h
    exact List.mergeSort_perm ..

theorem bindings_of_reflect {entryPoint : String} {i : ShaderInterface}
    (h : m.reflect entryPoint = .ok i) : ∃ e bindings, i.bindings.Perm bindings ∧
      List.Forall₂ (fun p b => m.reflectGlobal p.1 p.2 = .ok b) (m.boundGlobals e) bindings := by
  unfold reflect at h
  split at h
  · cases h
  · cases h
  · split at h
    · cases h
    · next e _ =>
      split at h
      · exact ⟨e, bindings_of_entryInterface h⟩
      · cases h
      · cases h

/-- Globals with different names report bindings with different names. -/
theorem nodup_names_of_reflect {entryPoint : String} {i : ShaderInterface} (hm : m.named = true)
    (hn : (m.globals.map Global.name).Nodup) (h : m.reflect entryPoint = .ok i) :
    (i.bindings.map ShaderBinding.name).Nodup := by
  obtain ⟨e, bindings, hperm, hall⟩ := bindings_of_reflect h
  have hnames : (m.boundGlobals e).map (fun p => p.1.name) = bindings.map ShaderBinding.name :=
    map_eq_of_forall₂ (hall.imp fun _ _ hb => (reflectGlobal_name hm hb).symm)
  rw [(hperm.map _).nodup_iff, ← hnames]
  refine (map_filterMap_sublist (k := Global.name) (fun g p hp => ?_) m.globals).nodup hn
  split at hp
  · split at hp
    · cases hp
      rfl
    · cases hp
  · cases hp

end ShaderModule

end PassForge
