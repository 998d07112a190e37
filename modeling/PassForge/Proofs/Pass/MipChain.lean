import Mathlib
import PassForge.Proofs.Pass.Bindings
import PassForge.Proofs.Resource.TextureCursor

/-!
# Mip chains

A texture that stands behind several bindings with storage access is bound mip after mip if its
auto-advance is on, and always with the mip at its cursor otherwise.

* `StorageUse` is a binding with storage access to a texture and what is bound for it, and
  `storageUses` lists those of some bind groups.
* `Context.Advances` is what binding does to the texture under an id: one lemma for a binding, one for a
  group and one for all groups.
* `Context.BindsMips` is what a compiled pass leaves.
* `Context.KeepsCursors`: recording moves no cursor, unless the hook of the pass does.
* `mipChain_spec` is the whole statement.
-/

namespace PassForge

open Context (Touch Survey Refresh Arrange)
open Relation (ReflTransGen)

variable {c c' c'' : Context} {table : UniformTable} {id : ResourceId}

/-! ## Storage access -/

/-- Whether a binding needs storage access and the resource under an id is assigned to its name. -/
def MergedBinding.bindsStorage (b : MergedBinding) (table : UniformTable) (id : ResourceId) : Bool :=
  b.kind.isStorageTexture && (table.assignment? b.name).any fun a => a.resource = id

/-- A binding with storage access to a texture, and what is bound for it. -/
structure StorageUse where
  group : Nat
  binding : Nat
  resource : BoundResource
  deriving DecidableEq

/-- The order of the groups, and in a group that of the slots. -/
def StorageUse.Before (u v : StorageUse) : Prop :=
  u.group < v.group ∨ u.group = v.group ∧ u.binding < v.binding

/-- A bind group with the merged group that it was made for. -/
structure BoundGroup where
  group : MergedGroup
  /-- The serial of the bind group. -/
  serial : Nat
  entries : List GroupEntry

namespace BoundGroup

/-- The bindings of a group with storage access to a texture. -/
def storageUses (table : UniformTable) (id : ResourceId) (g : BoundGroup) : List StorageUse :=
  ((g.group.bindings.zip g.entries).filter fun p => p.1.bindsStorage table id).map fun p =>
    ⟨g.group.index, p.1.binding, p.2.resource⟩

/-- A device has made a bind group, with an entry for each binding. -/
structure Made (g : BoundGroup) (d : Device) : Prop where
  event : ∃ layout, .bindGroupCreated g.serial ("bind group " ++ toString g.group.index) layout
    g.entries ∈ d.trace
  slots : g.entries.map GroupEntry.binding = g.group.bindings.map MergedBinding.binding

theorem Made.later {g : BoundGroup} {d d' : Device} (h : g.Made d) (hd : d.Later d') : g.Made d' :=
  have ⟨layout, hmade⟩ := h.event
  ⟨⟨layout, hd.mem hmade⟩, h.slots⟩

end BoundGroup

/-- The bindings of some groups with storage access to a texture. -/
def storageUses (table : UniformTable) (id : ResourceId) (groups : List BoundGroup) :
    List StorageUse :=
  groups.flatMap (BoundGroup.storageUses table id)

/-- In a group whose slots ascend, its bindings with storage access do. -/
theorem BoundGroup.Made.ascending {g : BoundGroup} {d : Device} (hg : g.Made d)
    (hslots : (g.group.bindings.map MergedBinding.binding).Pairwise (· < ·)) :
    (g.storageUses table id).Pairwise StorageUse.Before := by
  have hlength : g.group.bindings.length ≤ g.entries.length := by
    simpa using (congrArg List.length hg.slots).ge
  rw [← List.map_fst_zip hlength, List.map_map] at hslots
  refine List.pairwise_map.2 (List.Pairwise.filter _ ?_)
  exact (List.pairwise_map.1 hslots).imp fun h => .inr ⟨rfl, h⟩

/-- The bindings of merged groups with storage access ascend, by group and in a group by slot. -/
theorem storageUses_ascending {stages : List ShaderInterface} {limit : Nat}
    {groups : List BoundGroup} {d : Device}
    (h : merge stages limit = .ok (groups.map BoundGroup.group)) (hmade : ∀ g ∈ groups, g.Made d) :
    (storageUses table id groups).Pairwise StorageUse.Before := by
  have hgroup (i : Nat) (hi : i < groups.length) : groups[i].group.index = i :=
    ((merges_of_merge h).group i groups[i].group (by simp [hi])).1
  refine List.pairwise_flatMap.2 ⟨fun g hg => ?_, ?_⟩
  · exact (hmade g hg).ascending (slots_of_merge h (List.mem_map_of_mem hg))
  · refine List.pairwise_iff_getElem.2 fun i j hi hj hij u hu v hv => .inl ?_
    obtain ⟨p, -, rfl⟩ := List.mem_map.1 hu
    obtain ⟨q, -, rfl⟩ := List.mem_map.1 hv
    show groups[i].group.index < groups[j].group.index
    rwa [hgroup i hi, hgroup j hj]

/-! ## Binding -/

/-- What binding does to the texture under an id, if it binds some storage views of it. -/
def Context.Advances (c : Context) (id : ResourceId) (bound : List BoundResource) (c' : Context) :
    Prop :=
  ∀ t, c.textures.get? id = some t → ∃ t', c'.textures.get? id = some t' ∧ t.Advanced t' bound

namespace Context.Advances

variable {bound bound' : List BoundResource}

theorem of_eq (hc : c.Sound) (h : c'.textures = c.textures) : c.Advances id [] c' := fun t ht =>
  ⟨t, h ▸ ht, .refl (hc.textures id t ht).2.cursor⟩

theorem trans (h : c.Advances id bound c') (h' : c'.Advances id bound' c'') :
    c.Advances id (bound ++ bound') c'' := by
  intro t ht
  obtain ⟨t', ht', hadvanced⟩ := h t ht
  obtain ⟨t'', ht'', hadvanced'⟩ := h' t' ht'
  exact ⟨t'', ht'', hadvanced.trans hadvanced'⟩

end Context.Advances

variable {g : MergedGroup} {b : MergedBinding} {cuts cuts' : Cuts} {bound : BoundResource}

theorem bindBuffer_textures {buffer : Buffer}
    (h : bindBuffer table g b buffer cuts c = .ok (bound, cuts') c') :
    c'.textures = c.textures := by
  obtain ⟨serial, c₁, hon, h⟩ := bind_eq_ok h
  obtain ⟨a, l, -, -, rfl⟩ := on_eq_ok (lift_eq_ok.1 hon)
  split at h
  · cases h
    rfl
  · rw [context_bind] at h
    obtain ⟨range, -, h⟩ := liftExcept_bind_eq_ok h
    cases h
    rfl

theorem bindTexture_advances {texture : ResourceId} {t : Texture} (hc : c.Sound)
    (ht : c.textures.get? texture = some t) (h : bindTexture b t c = .ok bound c') :
    c.Advances id (if b.kind.isStorageTexture && decide (texture = id) then [bound] else []) c' := by
  obtain ⟨htid, hsound⟩ := hc.textures texture t ht
  rw [bindTexture_eq] at h
  obtain ⟨v, c₁, hon, hpure⟩ := bind_eq_ok h
  cases hpure
  obtain ⟨t₀, l, h₀, hl, rfl⟩ := on_eq_ok (lift_eq_ok.1 hon)
  rw [htid] at h₀ ⊢
  cases h₀.symm.trans ht
  intro t' ht'
  refine Store.exists_get?_update (R := fun id t t' => t.Advanced t'
    (if b.kind.isStorageTexture && decide (texture = id) then [.view v] else [])) ht ?_ ?_ ht'
  · have hadvanced := Texture.bindView_advances hsound.cursor hl
    rwa [decide_eq_true rfl, Bool.and_true]
  · intro id' a' heq ha'
    rw [decide_eq_false (Ne.symm heq), Bool.and_false]
    exact .refl (hc.textures id' a' ha').2.cursor

/-- Binding what is assigned to a name advances the texture under an id if it binds a storage view of
it. -/
theorem bindResource_advances (hc : c.Sound)
    (h : bindResource table g b cuts c = .ok (bound, cuts') c') :
    c.Advances id (if b.bindsStorage table id then [bound] else []) c' := by
  unfold bindResource at h
  rw [context_bind] at h
  obtain ⟨r, hr, hbind⟩ := liftExcept_bind_eq_ok h
  obtain ⟨a, ha, hres⟩ := resolve_eq_ok hr
  have huses : b.bindsStorage table id =
      (b.kind.isStorageTexture && decide (a.resource = id)) := by
    rw [MergedBinding.bindsStorage, ha, Option.any_some]
  rw [huses]
  generalize hk : b.kind = k at hres
  cases hres with
  | uniformBuffer | storageBuffer => exact .of_eq hc (bindBuffer_textures hbind)
  | texture ht | storageTexture ht =>
    obtain ⟨bound', c₁, hbind, hpure⟩ := bind_eq_ok hbind
    cases hpure
    exact hk ▸ bindTexture_advances hc ht hbind
  | sampler =>
    obtain ⟨serial, c₁, hon, hpure⟩ := bind_eq_ok hbind
    obtain ⟨s, l, -, -, rfl⟩ := on_eq_ok (lift_eq_ok.1 hon)
    cases hpure
    exact .of_eq hc rfl

/-- Binding a list of bindings gives an entry for the slot of each and advances the texture under an
id once for each storage view of it. -/
theorem bindAll_advances {bs : List MergedBinding} {es : List GroupEntry} (hc : c.Sound)
    (h : bindAll table g bs cuts c = .ok es c') :
    es.map GroupEntry.binding = bs.map MergedBinding.binding ∧ ∀ id, c.Advances id
      (((bs.zip es).filter fun p => p.1.bindsStorage table id).map fun p => p.2.resource) c' := by
  induction bs generalizing c cuts es with
  | nil =>
    cases h
    exact ⟨rfl, fun id => .of_eq hc rfl⟩
  | cons b bs ih =>
    obtain ⟨⟨bound, cuts'⟩, c₁, hbind, h⟩ := bind_eq_ok h
    obtain ⟨rest, c₂, hrest, hpure⟩ := bind_eq_ok h
    cases hpure
    have htouches : ReflTransGen Touch c c₁ := (bindResource_touches g b cuts).of_eq_ok hbind
    obtain ⟨hslots, hadvances⟩ := ih (Context.sound_of_touches htouches hc) hrest
    refine ⟨by rw [List.map_cons, List.map_cons, hslots], fun id => ?_⟩
    have hfirst := @bindResource_advances c c₁ table id g b cuts cuts' bound hc hbind
    rw [List.zip_cons_cons, List.filter_cons]
    cases hb : b.bindsStorage table id with
    | true =>
      rw [hb] at hfirst
      exact hfirst.trans (hadvances id)
    | false =>
      rw [hb] at hfirst
      exact hfirst.trans (hadvances id)

/-- Making a bind group advances the texture under an id once for each storage view of it. -/
theorem makeBindGroup_advances {l : GroupLayout} {serial : Nat} (hc : c.Sound)
    (h : makeBindGroup table l c = .ok serial c') : ∃ g : BoundGroup, g.group = l.group ∧
      g.serial = serial ∧ g.Made c'.device ∧
      ∀ id, c.Advances id ((g.storageUses table id).map StorageUse.resource) c' := by
  obtain ⟨entries, c₁, hbind, h⟩ := bind_eq_ok h
  obtain ⟨hslots, hadvances⟩ := bindAll_advances hc hbind
  split at h
  · cases h
  · cases h
    refine ⟨⟨l.group, c₁.device.nextSerial, entries⟩, rfl, rfl,
      ⟨⟨l.layout, List.mem_append_right _ (List.mem_singleton_self _)⟩, hslots⟩, fun id => ?_⟩
    rw [BoundGroup.storageUses, List.map_map]
    exact hadvances id

/-- **Making bind groups advances the texture under an id once for each storage view of it**, in the
order of the groups. -/
theorem makeBindGroups_advances {layouts : List GroupLayout} {serials : List Nat} (hc : c.Sound)
    (h : makeBindGroups table layouts c = .ok serials c') : ∃ groups : List BoundGroup,
      groups.map BoundGroup.group = layouts.map GroupLayout.group ∧
      groups.map BoundGroup.serial = serials ∧ (∀ g ∈ groups, g.Made c'.device) ∧
      ∀ id, c.Advances id ((storageUses table id groups).map StorageUse.resource) c' := by
  unfold makeBindGroups at h
  induction layouts generalizing c serials with
  | nil =>
    cases h
    exact ⟨[], rfl, rfl, fun _ hg => (nomatch hg), fun id => .of_eq hc rfl⟩
  | cons l layouts ih =>
    rw [List.mapM_cons] at h
    obtain ⟨serial, c₁, hfirst, h⟩ := bind_eq_ok h
    obtain ⟨rest, c₂, hrest, hpure⟩ := bind_eq_ok h
    cases hpure
    have htouches : ReflTransGen Touch c c₁ := (makeBindGroup_touches l).of_eq_ok hfirst
    have htouches' : ReflTransGen Touch c₁ c' := (makeBindGroups_touches layouts).of_eq_ok hrest
    obtain ⟨g, hgroup, hserial, hmade, hadvances⟩ := makeBindGroup_advances hc hfirst
    obtain ⟨groups, hgroups, hserials, hmades, hothers⟩ :=
      ih (Context.sound_of_touches htouches hc) hrest
    refine ⟨g :: groups, by rw [List.map_cons, List.map_cons, hgroup, hgroups],
      by rw [List.map_cons, hserial, hserials], List.forall_mem_cons.2 ⟨?_, hmades⟩, fun id => ?_⟩
    · exact hmade.later (Context.retains_of_touches htouches').later
    · rw [storageUses, List.flatMap_cons, List.map_append]
      exact (hadvances id).trans (hothers id)

/-! ## Compiling -/

/-- What compiling a pass leaves of its textures, if `groups` are its bind groups: the `i`-th storage
access to a texture, by group and slot, is to the view that it keeps of the mip that the cursor is at
after `i` reads. -/
structure Context.BindsMips (c c' : Context) (stages : List ShaderInterface) (table : UniformTable)
    (groups : List BoundGroup) : Prop where
  merged : merge stages c.device.limits.maxBindGroups = .ok (groups.map BoundGroup.group)
  made : ∀ g ∈ groups, g.Made c'.device
  ascending : ∀ id, (storageUses table id groups).Pairwise StorageUse.Before
  chain : ∀ id t, c.textures.get? id = some t → ∃ t', c'.textures.get? id = some t' ∧
    t'.bare = t.bare ∧ t'.cursor = t.cursorAfter (storageUses table id groups).length ∧
    ∀ i u, (storageUses table id groups)[i]? = some u → ∃ vs v image,
      t'.storageViews = some vs ∧ vs[t.cursorAfter i]? = some v ∧ u.resource = .view v ∧
      t'.device = some image ∧ t.ShowsMip c'.device image (t.cursorAfter i) v

/-- A run that makes layouts and bind groups binds mips, whatever leaves the textures before and after
it. -/
theorem BindsUniforms.bindsMips {label : Option String} {stages : List ShaderInterface}
    {layouts : List GroupLayout} {layout : Nat} {serials : List Nat} {c₀ c₁ : Context}
    (h : BindsUniforms label stages table layouts layout serials c₀ c₁)
    (hbefore : ReflTransGen Survey c c₀) (hc : c.Sound) (hc' : c'.Sound)
    (hafter : c'.textures = c₁.textures) (hlater : c₁.device.Later c'.device) :
    ∃ groups : List BoundGroup, groups.map BoundGroup.serial = serials ∧
      c.BindsMips c' stages table groups := by
  obtain ⟨c₂, c₃, hlayouts, hlayout, hgroups⟩ := h
  have hsurvey : ReflTransGen Survey c c₃ := hbefore.trans
    (((makeLayouts_surveys stages).of_eq_ok hlayouts).trans
      ((makePipelineLayout_surveys label layouts).of_eq_ok hlayout))
  have hlimits : c₀.device.limits = c.device.limits :=
    (Context.spared_of_touches (Survey.touches hbefore)).device.limits
  obtain ⟨groups, hmerged, hserials, hmade, hadvances⟩ :=
    makeBindGroups_advances (Context.sound_of_touches (Survey.touches hsurvey) hc) hgroups
  have hmerge : merge stages c.device.limits.maxBindGroups =
      .ok (groups.map BoundGroup.group) := by
    rw [← hlimits, hmerged]
    exact (makeLayouts_made hlayouts).1
  refine ⟨groups, hserials, hmerge, fun g hg => (hmade g hg).later hlater,
    fun id => storageUses_ascending hmerge hmade, fun id t ht => ?_⟩
  obtain ⟨t', ht', hadvanced⟩ := hadvances id t ((Context.textures_of_surveys hsurvey).symm ▸ ht)
  rw [← hafter] at ht'
  refine ⟨t', ht', hadvanced.bare, by rw [hadvanced.cursor, List.length_map], fun i u hu => ?_⟩
  obtain ⟨vs, v, hvs, hv, hbound⟩ := hadvanced.bound i u.resource (by rw [List.getElem?_map, hu]; rfl)
  obtain ⟨image, himage, hview⟩ := (hc'.textures id t' ht').2.showsMip hvs hv
  rw [Texture.field_of_bare Texture.ShowsMip (fun _ => rfl) hadvanced.bare] at hview
  exact ⟨vs, v, image, hvs, hv, hbound, himage, hview⟩

theorem RenderDesc.compile_bindsMips {d : RenderDesc} {r : RenderPass} (hc : c.Reachable)
    (h : d.compile c = .ok r c') : ∃ vertexShader fragmentShader vertex fragment table groups,
      d.vertexShader = some vertexShader ∧ d.fragmentShader = some fragmentShader ∧
      c.Reflects .vertex vertexShader vertex ∧ c.Reflects .fragment fragmentShader fragment ∧
      d.uniforms.uniforms = .ok table ∧ groups.map BoundGroup.serial = r.bindGroups ∧
      c.BindsMips c' [vertex, fragment] table groups := by
  have hc' : c'.Sound := (after_ok h ▸ hc.runs d.compile_runs : c'.Reachable).sound
  obtain ⟨p, c₁, hp, hf⟩ := bind_eq_ok h
  obtain ⟨htable, hvs, hfs, vertex, fragment, layouts, c₂, c₀, hvertex, hfragment, hbinds⟩ :=
    prepare_eq_ok hp
  obtain ⟨-, hgroups, -, -, htextures⟩ := finish_eq_ok hf
  obtain ⟨r', c₃, hf', -, hretains⟩ := finishes p c₁ hp
  cases hf'.symm.trans hf
  have hs₁ : ReflTransGen Survey c c₂ := (Work.stageInterface_surveys _ _).of_eq_ok hvertex
  have hs₂ : ReflTransGen Survey c₂ c₀ := (Work.stageInterface_surveys _ _).of_eq_ok hfragment
  have ht₁ : ReflTransGen Touch c c₂ := Survey.touches hs₁
  obtain ⟨groups, hserials, hmips⟩ :=
    hbinds.bindsMips (hs₁.trans hs₂) hc.sound hc' htextures hretains.later
  have hreflects := Work.stageInterface_reflects (Context.sound_of_touches ht₁ hc.sound) hfragment
  exact ⟨p.vertexShader, p.fragmentShader, vertex, fragment, p.uniforms, groups, hvs, hfs,
    Work.stageInterface_reflects hc.sound hvertex, hreflects.of_touches ht₁, htable,
    hserials.trans hgroups.symm, hmips⟩

theorem ComputeDesc.compile_bindsMips {d : ComputeDesc} {r : ComputePass} (hc : c.Reachable)
    (h : d.compile c = .ok r c') : ∃ shader i table groups, d.shader = some shader ∧
      c.Reflects .compute shader i ∧ d.uniforms.uniforms = .ok table ∧
      groups.map BoundGroup.serial = r.bindGroups ∧ c.BindsMips c' [i] table groups := by
  have hc' : c'.Sound := (after_ok h ▸ hc.runs d.compile_runs : c'.Reachable).sound
  obtain ⟨p, c₁, hp, hf⟩ := bind_eq_ok h
  obtain ⟨htable, hs, i, layouts, c₀, hi, hbinds⟩ := prepare_eq_ok hp
  obtain ⟨hgroups, -, -, -, htextures⟩ := finish_eq_ok hf
  obtain ⟨r', c₂, hf', -, hretains⟩ := finishes p c₁ hp
  cases hf'.symm.trans hf
  have hsurvey : ReflTransGen Survey c c₀ := (Work.stageInterface_surveys _ _).of_eq_ok hi
  obtain ⟨groups, hserials, hmips⟩ :=
    hbinds.bindsMips hsurvey hc.sound hc' htextures hretains.later
  exact ⟨p.shader, i, p.uniforms, groups, hs, Work.stageInterface_reflects hc.sound hi, htable,
    hserials.trans hgroups.symm, hmips⟩

/-! ## Recording -/

/-- Every texture is still there and has its cursor. -/
def Context.KeepsCursors (c c' : Context) : Prop :=
  ∀ id t, c.textures.get? id = some t → ∃ t', c'.textures.get? id = some t' ∧ t'.cursor = t.cursor

namespace Context.KeepsCursors

theorem of_eq (h : c'.textures = c.textures) : c.KeepsCursors c' := fun _ t ht => ⟨t, h ▸ ht, rfl⟩

theorem trans (h : c.KeepsCursors c') (h' : c'.KeepsCursors c'') : c.KeepsCursors c'' := by
  intro id t ht
  obtain ⟨t', ht', hcursor⟩ := h id t ht
  obtain ⟨t'', ht'', hcursor'⟩ := h' id t' ht'
  exact ⟨t'', ht'', hcursor'.trans hcursor⟩

theorem of_runs (h : ReflTransGen KeepsCursors c c') : c.KeepsCursors c' := by
  induction h with
  | refl => exact .of_eq rfl
  | tail _ h ih => exact ih.trans h

theorem put {t : Texture} {l : Live Texture} (h : c.textures.get? id = some t)
    (hl : l.object.cursor = t.cursor) : c.KeepsCursors (Shelf.textures.put id l c) := by
  intro id' t' ht'
  exact Store.exists_get?_update (R := fun _ t t' => t'.cursor = t.cursor) h hl
    (fun _ _ _ _ => rfl) ht'

end Context.KeepsCursors

open Context (KeepsCursors)

theorem Context.Refresh.keepsCursors {p : SyncPoint} (h : Refresh p c c') : c.KeepsCursors c' := by
  cases h with
  | buffer => exact .of_eq rfl
  | texture h hl => exact .put h hl.cursor

theorem Context.Arrange.keepsCursors (h : Arrange c c') : c.KeepsCursors c' := by
  cases h with
  | buffer => exact .of_eq rfl
  | texture h hl => exact .put h hl.cursor

/-- Recording a render pass moves no cursor. -/
theorem RenderPass.build_keepsCursors (r : RenderPass) : Runs KeepsCursors r.build :=
  r.build_within (fun _ _ _ => Refresh.keepsCursors) (fun _ _ => Arrange.keepsCursors)
    fun _ _ _ => .of_eq rfl

/-- Recording a compute pass moves no cursor if its hook moves none. -/
theorem ComputePass.build_keepsCursors (r : ComputePass)
    (h : ∀ hook, r.hook = some hook → Runs KeepsCursors hook) : Runs KeepsCursors r.build :=
  r.build_within (fun _ _ _ => Refresh.keepsCursors) (fun _ _ => Arrange.keepsCursors)
    (fun _ _ _ => .of_eq rfl) (fun _ => .of_eq rfl) h

/-- Copying between textures moves no cursor. -/
theorem Work.copyTexture_keepsCursors (source : ResourceId) (sourceMip : Nat) (target : ResourceId)
    (targetMip : Nat) : Runs KeepsCursors (Work.copyTexture source sourceMip target targetMip) := by
  have hhandle (id : ResourceId) : Runs KeepsCursors (Work.on .textures id Texture.handle) := fun c =>
    (Work.on_texture_refreshes (Texture.handle_refreshes .before) c).mono fun _ _ =>
      Refresh.keepsCursors
  exact runs_find.bind fun s => runs_find.bind fun t => runs_liftExcept.bind fun _ =>
    runs_liftExcept.bind fun _ => (hhandle source).bind fun _ => (hhandle target).bind fun _ _ =>
    .single (.of_eq rfl)

/-- **Compiling binds a texture mip after mip.** The storage accesses to a texture, by group and slot
of the merged groups, are to the views that it keeps of the mips from its cursor on, modulo their
number, and leave the cursor after the last of them; without auto-advance they are all to the mip at
the cursor, which stays. Only those accesses count: neither bindings that sample the texture nor a
second stage that uses a binding of the first. Nothing else moves a cursor: not making the layouts,
whatever comes of it, and not recording a pass, as far as the hook of the pass moves none. -/
theorem mipChain_spec (hc : c.Reachable) :
    (∀ (d : RenderDesc) (r : RenderPass) (c' : Context), d.compile c = .ok r c' →
      ∃ vertexShader fragmentShader vertex fragment table groups,
        d.vertexShader = some vertexShader ∧ d.fragmentShader = some fragmentShader ∧
        c.Reflects .vertex vertexShader vertex ∧ c.Reflects .fragment fragmentShader fragment ∧
        d.uniforms.uniforms = .ok table ∧ groups.map BoundGroup.serial = r.bindGroups ∧
        c.BindsMips c' [vertex, fragment] table groups) ∧
    (∀ (d : ComputeDesc) (r : ComputePass) (c' : Context), d.compile c = .ok r c' →
      ∃ shader i table groups, d.shader = some shader ∧ c.Reflects .compute shader i ∧
        d.uniforms.uniforms = .ok table ∧ groups.map BoundGroup.serial = r.bindGroups ∧
        c.BindsMips c' [i] table groups) ∧
    (∀ (stages : List ShaderInterface) (table : UniformTable) (c : Context),
      (after (makeLayouts stages table) c).textures = c.textures) ∧
    (∀ (r : RenderPass) (c : Context), c.KeepsCursors (after r.build c)) ∧
    ∀ (r : ComputePass) (c : Context),
      (∀ hook, r.hook = some hook → ∀ c : Context, c.KeepsCursors (after hook c)) →
      c.KeepsCursors (after r.build c) := by
  refine ⟨fun d r c' h => RenderDesc.compile_bindsMips hc h,
    fun d r c' h => ComputeDesc.compile_bindsMips hc h,
    fun stages table c => Context.textures_of_surveys (makeLayouts_surveys stages c),
    fun r c => .of_runs (r.build_keepsCursors c), fun r c hhook => .of_runs ?_⟩
  exact r.build_keepsCursors (fun hook hh c => .single (hhook hook hh c)) c

namespace Reduction

/-- A compute shader that reads one mip of a texture and writes the next. -/
def code : ShaderModule where
  globals := [
    { name := "sum", space := .handle,
      type := .image .d2 (.storage "rgba8unorm" ⟨false, true⟩), slot := some ⟨0, 1⟩ },
    { name := "source", space := .handle,
      type := .image .d2 (.storage "rgba8unorm" ⟨true, false⟩), slot := some ⟨0, 0⟩ }]
  entryPoints := [
    { name := "main", stage := .pipeline .compute, uses := ["sum", "source"] }]

/-- Creates a texture with three mips, whose cursor advances by itself and is at the last of them, and
the shader. -/
def setup : Work ResourceError Unit := do
  let texture ← Work.createStorageTexture2d
    { width := 8, height := 8, format := some .rgba8Unorm, mips := some 3 }
  Work.on .textures texture (Action.change (Texture.setAutoAdvance true))
  Work.on .textures texture (Action.change fun t => t.pointCursor 2)
  let _ ← Work.createShader .compute { code := code, entryPoint := "main" }

/-- The context with these resources. -/
def context : Context := after setup (.start {})

theorem reachable : context.Reachable := by
  refine Context.Reachable.runs ⟨.start {}, .refl⟩ ?_
  exact (Work.createStorageTexture2d_runs _).bind fun _ =>
    (Work.on_texture_runs (Texture.setAutoAdvance_runs true)).bind fun _ =>
    (Work.on_texture_runs (Texture.pointCursor_runs 2)).bind fun _ =>
    (Work.createShader_runs _ _).bind fun _ => runs_pure ()

/-- A pass that binds the texture twice and then copies a mip of it. -/
def pass : ComputeDesc where
  shader := some ⟨2⟩
  uniforms := .ofList [("source", ⟨⟨1⟩, .textureStorage2D⟩), ("sum", ⟨⟨1⟩, .textureStorage2D⟩)]
  dispatch := .workgroups 1 1 1
  hook := some (Work.copyTexture ⟨1⟩ 2 ⟨1⟩ 1)

/-- The view that is made of a mip of the texture. -/
def view (serial level : Nat) : View where
  serial := serial
  texture := 5
  dimension := some .d2
  aspect := .all
  baseMip := level
  mips := some 1
  baseLayer := 0
  layers := some 1

theorem cursor_compile :
    ((after pass.compile context).textures.get? ⟨1⟩).map Texture.cursor = some 1 := by cbv

theorem group_mem_compile : .bindGroupCreated 9 "bind group 0" 3
    [⟨0, .view (view 8 2)⟩, ⟨1, .view (view 6 0)⟩] ∈ (after pass.compile context).device.trace := by
  have hget : (after pass.compile context).device.trace[6]? = some (.bindGroupCreated 9
      "bind group 0" 3 [⟨0, .view (view 8 2)⟩, ⟨1, .view (view 6 0)⟩]) := by cbv
  exact List.mem_of_getElem? hget

end Reduction

/-- The last mip of the texture is bound and then the first, the cursor goes on to the second, and
recording the pass leaves it there. -/
theorem mipChain_reduction : ∃ r c', Reduction.pass.compile Reduction.context = .ok r c' ∧
    (c'.textures.get? ⟨1⟩).map Texture.cursor = some 1 ∧
    .bindGroupCreated 9 "bind group 0" 3
      [⟨0, .view (Reduction.view 8 2)⟩, ⟨1, .view (Reduction.view 6 0)⟩] ∈ c'.device.trace ∧
    (∃ shader i table groups, Reduction.pass.shader = some shader ∧
      Reduction.context.Reflects .compute shader i ∧
      Reduction.pass.uniforms.uniforms = .ok table ∧
      groups.map BoundGroup.serial = r.bindGroups ∧
      Reduction.context.BindsMips c' [i] table groups) ∧
    c'.KeepsCursors (after r.build c') := by
  have hout : (outcome Reduction.pass.compile Reduction.context).map ComputePass.bindGroups =
      .ok [9] := by cbv
  cases h : Reduction.pass.compile Reduction.context with
  | error e c' =>
    rw [outcome_error h] at hout
    cases hout
  | ok r c' =>
    refine ⟨r, c', rfl, after_ok h ▸ Reduction.cursor_compile, after_ok h ▸ Reduction.group_mem_compile,
      (mipChain_spec Reduction.reachable).2.1 _ r c' h, ?_⟩
    refine (mipChain_spec Reduction.reachable).2.2.2.2 r c' fun hook hh c => .of_runs ?_
    obtain ⟨p, c₁, -, hfinish⟩ := bind_eq_ok h
    rw [(ComputeDesc.finish_eq_ok hfinish).2.2.1] at hh
    cases hh
    exact Work.copyTexture_keepsCursors _ _ _ _ c

end PassForge
