import PassForge.Proofs.Binding.Merge
import PassForge.Proofs.Pass.Fit
import PassForge.Proofs.Pass.Plan

/-!
# Bind groups that serve their layouts

What a run that makes layouts and bind groups leaves on the device: one bind group for each layout, and
in each group one entry for each entry of its layout, for the same slot and with a resource that fits.

* `LayoutMade` is what making a layout leaves, `GroupServes` what making a bind group leaves.
* `makeBindGroups_forall₂`: what is established for each binding holds of the entries of all groups.
* `BindingsServe` is what the whole run leaves; `BindsUniforms.serve` proves it.
-/

namespace PassForge

open Context (Touch Retains)
open Relation (ReflTransGen)

variable {c c' c₀ : Context} {table : UniformTable} {l : GroupLayout} {serial : Nat}

/-! ## Layouts -/

/-- A layout that a device has made, with the entry of each binding of its group. -/
structure LayoutMade (c : Context) (table : UniformTable) (l : GroupLayout) (d : Device) : Prop where
  entries : List.Forall₂ (fun b le => layoutEntry c table l.group.index b = .ok le) l.group.bindings
    l.entries
  made : .bindGroupLayoutCreated l.layout ("bind group layout " ++ toString l.group.index) l.entries ∈
    d.trace

theorem layoutEntry_binding {group : Nat} {b : MergedBinding} {le : LayoutEntry}
    (h : layoutEntry c table group b = .ok le) : le.binding = b.binding := by
  obtain ⟨r, -, hentry⟩ := bind_eq_ok_iff.1 h
  obtain ⟨type, -, heq⟩ := bind_eq_ok_iff.1 hentry
  cases heq
  rfl

theorem makeLayout_made {g : MergedGroup} (hbare : c.bare = c₀.bare)
    (h : makeLayout table g c = .ok l c') : LayoutMade c₀ table l c'.device ∧ l.group = g := by
  unfold makeLayout at h
  rw [context_bind] at h
  obtain ⟨entries, hentries, h₁⟩ := liftExcept_bind_eq_ok h
  rw [call_bind] at h₁
  cases h₁
  refine ⟨⟨?_, List.mem_append_right _ (List.mem_singleton_self _)⟩, rfl⟩
  exact (mapM_eq_ok_iff.1 hentries).imp fun _ _ hle => (layoutEntry_congr hbare).symm.trans hle

/-- Two lists that a third goes with one by one go with each other. -/
theorem forall₂_of_forall₂ {α β γ : Type} {R : α → β → Prop} {S : α → γ → Prop} {as : List α}
    {bs : List β} {cs : List γ} (h : List.Forall₂ R as bs) (h' : List.Forall₂ S as cs) :
    List.Forall₂ (fun b c => ∃ a ∈ as, R a b ∧ S a c) bs cs := by
  induction h generalizing cs with
  | nil =>
    cases h'
    exact .nil
  | @cons a b as bs hab _ ih =>
    cases h' with
    | cons hac htail =>
      refine .cons ⟨a, List.mem_cons_self, hab, hac⟩ ((ih htail).imp ?_)
      exact fun _ _ ⟨a', ha', hboth⟩ => ⟨a', List.mem_cons_of_mem a ha', hboth⟩

/-- The layouts of some stages are made for their merged groups. -/
theorem makeLayouts_made {stages : List ShaderInterface} {layouts : List GroupLayout}
    (h : makeLayouts stages table c = .ok layouts c') :
    merge stages c.device.limits.maxBindGroups = .ok (layouts.map GroupLayout.group) ∧
      ∀ l ∈ layouts, LayoutMade c table l c'.device := by
  unfold makeLayouts at h
  rw [context_bind] at h
  obtain ⟨gs, hgs, h₁⟩ := liftExcept_bind_eq_ok h
  have hmade := forall₂_of_mapM (I := fun c' => c'.bare = c.bare)
    (P := fun g l c' => LayoutMade c table l c'.device ∧ l.group = g) makeLayout_touches
    (fun _ _ ht hbare => (Context.spared_of_touches ht).bare.trans hbare)
    (fun _ _ _ _ ht h =>
      ⟨{ h.1 with made := (Context.spared_of_touches ht).device.later.mem h.1.made }, h.2⟩)
    (fun _ _ _ _ _ hbare h => makeLayout_made hbare h) rfl h₁
  obtain ⟨hall, hgroups⟩ := (List.forall₂_and_left _ _).1 hmade.flip
  rw [map_eq_of_forall₂ (g := id) hgroups, List.map_id]
  exact ⟨hgs, hall⟩

/-- The slots of a merged group ascend. -/
theorem slots_of_merge {stages : List ShaderInterface} {limit : Nat} {gs : List MergedGroup}
    (h : merge stages limit = .ok gs) {g : MergedGroup} (hg : g ∈ gs) :
    (g.bindings.map MergedBinding.binding).Pairwise (· < ·) := by
  obtain ⟨i, hi⟩ := List.mem_iff_getElem?.1 hg
  exact List.pairwise_map.2 ((merges_of_merge h).group i g hi).2.ascending

/-! ## Bind groups -/

/-- A bind group with some entries that serves a layout: the device has made both, the slots of their
entries are the same and ascend, and each entry fits. -/
structure GroupServes (c : Context) (table : UniformTable) (l : GroupLayout) (serial : Nat)
    (entries : List GroupEntry) : Prop where
  layout : .bindGroupLayoutCreated l.layout ("bind group layout " ++ toString l.group.index)
    l.entries ∈ c.device.trace
  made : .bindGroupCreated serial ("bind group " ++ toString l.group.index) l.layout entries ∈
    c.device.trace
  slots : entries.map GroupEntry.binding = l.entries.map LayoutEntry.binding
  ascending : (entries.map GroupEntry.binding).Pairwise (· < ·)
  fits : List.Forall₂ (fun le ge => ∃ b ∈ l.group.bindings, EntryFits c table b le ge) l.entries
    entries

theorem GroupServes.later {entries : List GroupEntry} (h : GroupServes c table l serial entries)
    (hc : Retains c c') : GroupServes c' table l serial entries where
  layout := hc.later.mem h.layout
  made := hc.later.mem h.made
  slots := h.slots
  ascending := h.ascending
  fits := h.fits.imp fun _ _ ⟨b, hb, hfits⟩ => ⟨b, hb, hfits.later hc⟩

/-- A bind group serves a layout if the entries of its bindings fit and the slots of the group
ascend. -/
theorem GroupServes.of_forall₂ {entries : List GroupEntry} (hl : LayoutMade c₀ table l c.device)
    (hslots : (l.group.bindings.map MergedBinding.binding).Pairwise (· < ·))
    (hmade : .bindGroupCreated serial ("bind group " ++ toString l.group.index) l.layout entries ∈
      c.device.trace)
    (hentries : List.Forall₂ (fun b ge => ∀ le, layoutEntry c₀ table l.group.index b = .ok le →
      EntryFits c table b le ge) l.group.bindings entries) :
    GroupServes c table l serial entries := by
  have hfits : List.Forall₂ (fun le ge => ∃ b ∈ l.group.bindings, EntryFits c table b le ge)
      l.entries entries :=
    (forall₂_of_forall₂ hl.entries hentries).imp fun le _ ⟨b, hb, hle, hfit⟩ => ⟨b, hb, hfit le hle⟩
  have hle : l.group.bindings.map MergedBinding.binding = l.entries.map LayoutEntry.binding :=
    map_eq_of_forall₂ (hl.entries.imp fun _ _ hle => (layoutEntry_binding hle).symm)
  have hge : l.entries.map LayoutEntry.binding = entries.map GroupEntry.binding :=
    map_eq_of_forall₂ (hfits.imp fun _ _ ⟨_, _, hfit⟩ => hfit.layout.trans hfit.group.symm)
  exact {
    layout := hl.made
    made := hmade
    slots := hge.symm
    ascending := hge ▸ hle ▸ hslots
    fits := hfits }

/-- What making the bind groups of some layouts needs of a context: nothing but what binding leaves
has changed since the layouts were made. -/
structure ReadyToBind (c₀ : Context) (table : UniformTable) (layouts : List GroupLayout)
    (c : Context) : Prop where
  sound : c.Sound
  resources : table.assignments.OfResources c
  bare : c.bare = c₀.bare
  layouts : ∀ l ∈ layouts, LayoutMade c₀ table l c.device

theorem ReadyToBind.touches {layouts : List GroupLayout} (h : ReadyToBind c₀ table layouts c)
    (hc : ReflTransGen Touch c c') : ReadyToBind c₀ table layouts c' where
  sound := Context.sound_of_touches hc h.sound
  resources := h.resources.later (Context.retains_of_touches hc)
  bare := (Context.spared_of_touches hc).bare.trans h.bare
  layouts l hl := { h.layouts l hl with
    made := (Context.spared_of_touches hc).device.later.mem (h.layouts l hl).made }

section Rounds

variable {I : Context → Prop} (keepI : ∀ c c', ReflTransGen Touch c c' → I c → I c')

include keepI

/-- What is established whenever a binding of the group is bound, and lasts, holds of the entries of a
bind group. -/
theorem makeBindGroup_forall₂ {P : MergedBinding → GroupEntry → Context → Prop}
    (keepP : ∀ b ge c c', ReflTransGen Touch c c' → P b ge c → P b ge c')
    (round : ∀ b ∈ l.group.bindings, ∀ c cuts bound cuts' c', I c →
      bindResource table l.group b cuts c = .ok (bound, cuts') c' → P b ⟨b.binding, bound⟩ c')
    (hc : I c) (h : makeBindGroup table l c = .ok serial c') :
    ∃ entries, .bindGroupCreated serial ("bind group " ++ toString l.group.index) l.layout entries ∈
      c'.device.trace ∧ List.Forall₂ (fun b ge => P b ge c') l.group.bindings entries := by
  obtain ⟨entries, c₁, hbind, h₁⟩ := bind_eq_ok h
  have hall := bindAll_forall₂ keepI keepP round hc hbind
  split at h₁
  · cases h₁
  · cases h₁
    refine ⟨entries, List.mem_append_right _ (List.mem_singleton_self _), ?_⟩
    exact hall.imp fun b ge => keepP b ge _ _ (.single (Touch.group _ _ _))

/-- What is established whenever a binding is bound, and lasts, holds of the entries of all bind
groups. -/
theorem makeBindGroups_forall₂ {P : GroupLayout → MergedBinding → GroupEntry → Context → Prop}
    {layouts : List GroupLayout} {groups : List Nat}
    (keepP : ∀ l b ge c c', ReflTransGen Touch c c' → P l b ge c → P l b ge c')
    (round : ∀ l ∈ layouts, ∀ b ∈ l.group.bindings, ∀ c cuts bound cuts' c', I c →
      bindResource table l.group b cuts c = .ok (bound, cuts') c' → P l b ⟨b.binding, bound⟩ c')
    (hc : I c) (h : makeBindGroups table layouts c = .ok groups c') :
    List.Forall₂ (fun l serial => ∃ entries,
      .bindGroupCreated serial ("bind group " ++ toString l.group.index) l.layout entries ∈
        c'.device.trace ∧ List.Forall₂ (fun b ge => P l b ge c') l.group.bindings entries)
      layouts groups :=
  forall₂_of_mapM (P := fun l serial c' => ∃ entries,
      .bindGroupCreated serial ("bind group " ++ toString l.group.index) l.layout entries ∈
        c'.device.trace ∧ List.Forall₂ (fun b ge => P l b ge c') l.group.bindings entries)
    makeBindGroup_touches keepI
    (fun l _ _ _ ht ⟨entries, hmade, hall⟩ => ⟨entries, (Context.retains_of_touches ht).later.mem hmade,
      hall.imp fun b ge => keepP l b ge _ _ ht⟩)
    (fun l hl _ _ _ hc h => makeBindGroup_forall₂ keepI (keepP l) (round l hl) hc h) hc h

end Rounds

/-- What a run that makes layouts and bind groups leaves on the device: the layouts are those of the
merged groups of the stages, the pipeline layout lists them all, and each of them has a bind group that
serves it. -/
structure BindingsServe (c : Context) (label : Option String) (stages : List ShaderInterface)
    (table : UniformTable) (layouts : List GroupLayout) (layout : Nat) (groups : List Nat) :
    Prop where
  merged : merge stages c.device.limits.maxBindGroups = .ok (layouts.map GroupLayout.group)
  pipelineLayout : .pipelineLayoutCreated layout label (layouts.map GroupLayout.layout) ∈
    c.device.trace
  length : groups.length = layouts.length
  serve : List.Forall₂ (fun l serial => ∃ entries, GroupServes c table l serial entries) layouts
    groups

variable {label : Option String} {stages : List ShaderInterface} {layouts : List GroupLayout}
  {layout : Nat} {groups : List Nat}

theorem BindingsServe.later (h : BindingsServe c label stages table layouts layout groups)
    (hc : Retains c c') : BindingsServe c' label stages table layouts layout groups where
  merged := by rw [hc.later.limits, h.merged]
  pipelineLayout := hc.later.mem h.pipelineLayout
  length := h.length
  serve := h.serve.imp fun _ _ ⟨entries, hserves⟩ => ⟨entries, hserves.later hc⟩

/-- **The bind groups of a run serve its layouts.** -/
theorem BindsUniforms.serve (hc : c.Sound) (hbag : table.assignments.OfResources c)
    (h : BindsUniforms label stages table layouts layout groups c c') :
    BindingsServe c' label stages table layouts layout groups := by
  obtain ⟨c₁, c₂, h₁, h₂, h₃⟩ := h
  have ht₁ : ReflTransGen Touch c c₁ := (makeLayouts_touches stages).of_eq_ok h₁
  have ht₂ : ReflTransGen Touch c₁ c₂ := (makePipelineLayout_touches label layouts).of_eq_ok h₂
  have ht₃ : ReflTransGen Touch c₂ c' := (makeBindGroups_touches layouts).of_eq_ok h₃
  obtain ⟨hmerge, hmade⟩ := makeLayouts_made h₁
  have hready₁ : ReadyToBind c table layouts c₁ := {
    sound := Context.sound_of_touches ht₁ hc
    resources := hbag.later (Context.retains_of_touches ht₁)
    bare := (Context.spared_of_touches ht₁).bare
    layouts := hmade }
  have hentries := makeBindGroups_forall₂ (I := ReadyToBind c table layouts)
    (P := fun l b ge c' => ∀ le, layoutEntry c table l.group.index b = .ok le →
      EntryFits c' table b le ge)
    (fun _ _ ht h => h.touches ht)
    (fun _ _ _ _ _ ht h le hle => (h le hle).later (Context.retains_of_touches ht))
    (fun _ _ _ _ _ _ _ _ _ hready hbind _ hle => bindResource_fits hready.sound hready.resources
      ((layoutEntry_congr hready.bare).trans hle) hbind) (hready₁.touches ht₂) h₃
  have hlater := Context.retains_of_touches (ht₂.trans ht₃)
  have hserve : List.Forall₂ (fun l serial => ∃ entries, GroupServes c' table l serial entries)
      layouts groups := by
    have hlayouts : ∀ l ∈ layouts, LayoutMade c table l c'.device ∧
        (l.group.bindings.map MergedBinding.binding).Pairwise (· < ·) := fun l hl =>
      ⟨{ hmade l hl with made := hlater.later.mem (hmade l hl).made },
        slots_of_merge hmerge (List.mem_map_of_mem hl)⟩
    exact ((List.forall₂_and_left _ _).2 ⟨hlayouts, hentries⟩).imp
      fun l serial ⟨⟨hlayout, hslots⟩, entries, hevent, hall⟩ =>
        ⟨entries, .of_forall₂ hlayout hslots hevent hall⟩
  have hlimits := (Context.spared_of_touches ((ht₁.trans ht₂).trans ht₃)).device.limits
  refine ⟨by rw [hlimits, hmerge], ?_, hserve.length_eq.symm, hserve⟩
  cases h₂
  exact (Context.spared_of_touches ht₃).device.later.mem
    (List.mem_append_right _ (List.mem_singleton_self _))

end PassForge
