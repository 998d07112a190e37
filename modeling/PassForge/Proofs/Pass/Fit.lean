import PassForge.Proofs.Context.Bound
import PassForge.Proofs.Pass.Agreement

/-!
# Entries that fit

The layout of a group and its bind group are made in two passes, and each looks up every name anew. An
entry of the bind group *fits* the entry of the layout if the device object in it belongs to the
resource that is assigned to the name, and can be used as the layout says.

* `Bag.OfResources`: everything in a bag is assigned as what it is registered as.
* `Resolves` are the cases of `resolve`: `resolve_eq_ok` and `Resolves.resolve_eq_ok`.
  `Resolves.exists_type` is the first pass.
* `Fits` and `EntryFits` are the relation; `bindResource_fits` is the second pass for one binding.
* `bindAll_forall₂`: what the second pass establishes for each binding holds of all entries in the end.
-/

namespace PassForge

open Context (Touch Retains)
open Relation (ReflTransGen)

variable {c c' : Context} {table : UniformTable} {a : Assignment}

/-! ## Bags of resources -/

/-- The assignment of a registered resource. -/
inductive Context.Assigns (c : Context) : Assignment → Prop
  | buffer {id : ResourceId} {b : Buffer} (h : c.buffers.get? id = some b) :
      Assigns c b.assignment
  | texture {id : ResourceId} {t : Texture} (h : c.textures.get? id = some t) :
      Assigns c t.assignment
  | sampler {id : ResourceId} {s : Sampler} (h : c.samplers.get? id = some s) :
      Assigns c s.assignment

/-- Everything in a bag is the assignment of a registered resource. -/
def Bag.OfResources (bag : Bag) (c : Context) : Prop :=
  ∀ name a, bag.get? name = some a → c.Assigns a

theorem Bag.eq_of_uniforms {bag : Bag} (h : bag.uniforms = .ok table) : table.assignments = bag := by
  unfold Bag.uniforms at h
  split at h
  · cases h
  · cases h
    rfl

namespace Context.Assigns

theorem later (h : c.Assigns a) (hc : Retains c c') : c'.Assigns a := by
  cases h with
  | @buffer id b hb =>
    obtain ⟨b', hb', heq, -⟩ := Retains.exists_keeps hc.buffers hc.deviceBuffers hb
    have hsame : b'.assignment = b.assignment :=
      (congrArg Buffer.assignment heq : b'.bare.assignment = b.bare.assignment)
    exact hsame ▸ .buffer hb'
  | @texture id t ht =>
    obtain ⟨t', ht', heq, -⟩ := Retains.exists_keeps hc.textures hc.deviceTextures ht
    have hsame : t'.assignment = t.assignment :=
      Texture.field_of_bare Texture.assignment (fun _ => rfl) heq
    exact hsame ▸ .texture ht'
  | @sampler id s hs =>
    obtain ⟨s', hs', heq, -⟩ := Retains.exists_keeps hc.samplers hc.deviceSamplers hs
    have hsame : s'.assignment = s.assignment :=
      (congrArg Sampler.assignment heq : s'.bare.assignment = s.bare.assignment)
    exact hsame ▸ .sampler hs'

/-- A buffer that is assigned in the role of a buffer has the role of its kind. -/
theorem role_of_buffer (h : c.Assigns a) (hc : c.Sound) (hr : a.role.isBoundBuffer) {b : Buffer}
    (hb : c.buffers.get? a.resource = some b) : b.kind.role = a.role := by
  cases h with
  | @buffer id b' hb' =>
    have hid : b'.id = id := (hc.buffers id b' hb').1
    have hget : c.buffers.get? b'.id = some b := hb
    rw [hid] at hget
    cases hb'.symm.trans hget
    rfl
  | @texture id t ht =>
    revert hr
    show t.kind.role.isBoundBuffer = true → _
    cases t.kind <;> exact fun h => nomatch h
  | sampler => exact nomatch hr

end Context.Assigns

/-- What takes the role of a uniform buffer can be bound as one. -/
theorem BufferKind.uniform_of_role {k : BufferKind} (h : k.role = .uniformBuffer) :
    k.usage.uniform := by
  cases k <;> first | rfl | exact nomatch h

/-- What takes the role of storage can be bound as storage. -/
theorem BufferKind.storage_of_role {k : BufferKind} (h : k.role.isStorage) : k.usage.storage := by
  cases k <;> first | rfl | exact nomatch h

theorem Bag.OfResources.later {bag : Bag} (h : bag.OfResources c) (hc : Retains c c') :
    bag.OfResources c' := fun name a ha => (h name a ha).later hc

/-! ## Resolving -/

/-- The resource behind a binding of a kind, if a given assignment is made to its name. -/
inductive Resolves (c : Context) (a : Assignment) : ResourceKind → Resolved → Prop
  | uniformBuffer {b : Buffer} (hr : a.role = .uniformBuffer)
      (h : c.buffers.get? a.resource = some b) : Resolves c a .uniformBuffer (.buffer b)
  | storageBuffer {readOnly : Bool} {b : Buffer} (hr : a.role.isStorage)
      (h : c.buffers.get? a.resource = some b) (hk : b.kind ≠ .uniform) :
      Resolves c a (.storageBuffer readOnly) (.buffer b)
  | texture {dimension : ViewDimension} {sample : SampleKind} {multisampled : Bool} {t : Texture}
      (h : c.textures.get? a.resource = some t) (hr : a.role.isTexture) :
      Resolves c a (.texture dimension sample multisampled) (.texture t)
  | storageTexture {dimension : ViewDimension} {access : StorageAccess} {format : String}
      {t : Texture} (h : c.textures.get? a.resource = some t) (hr : a.role.isTexture) :
      Resolves c a (.storageTexture dimension access format) (.texture t)
  | sampler {comparison : Bool} {s : Sampler} (h : c.samplers.get? a.resource = some s)
      (hk : comparison = true ↔ s.kind = .comparison) (hr : a.role = .textureSampler) :
      Resolves c a (.sampler comparison) (.sampler s)

variable {group : Nat} {b : MergedBinding} {r : Resolved}

theorem resolve_eq_ok (h : resolve c table group b = .ok r) :
    ∃ a, table.assignment? b.name = some a ∧ Resolves c a b.kind r := by
  unfold resolve at h
  cases ha : table.assignment? b.name with
  | none =>
    rw [ha] at h
    cases h
  | some a =>
    rw [ha] at h
    refine ⟨a, rfl, ?_⟩
    cases hk : b.kind with
    | uniformBuffer =>
      simp only [hk] at h
      split at h
      · next hr =>
        obtain ⟨buffer, hb, rfl⟩ := map_eq_ok_iff.1 h
        exact .uniformBuffer hr (Store.require_eq_ok_iff.1 hb)
      · cases h
    | storageBuffer readOnly =>
      simp only [hk] at h
      split at h
      · next hr =>
        obtain ⟨buffer, hb, h⟩ := bind_eq_ok_iff.1 h
        obtain ⟨hkind, h⟩ := of_check_eq_ok h
        cases h
        exact .storageBuffer hr (Store.require_eq_ok_iff.1 hb) hkind
      · cases h
    | texture dimension sample multisampled =>
      simp only [hk] at h
      split at h
      · next hr =>
        obtain ⟨t, ht, rfl⟩ := map_eq_ok_iff.1 h
        exact .texture (Store.require_eq_ok_iff.1 ht) hr
      · cases h
    | storageTexture dimension access format =>
      simp only [hk] at h
      split at h
      · next hr =>
        obtain ⟨t, ht, rfl⟩ := map_eq_ok_iff.1 h
        exact .storageTexture (Store.require_eq_ok_iff.1 ht) hr
      · cases h
    | sampler comparison =>
      simp only [hk] at h
      split at h
      · next hr =>
        obtain ⟨s, hs, h⟩ := bind_eq_ok_iff.1 h
        obtain ⟨hcomparison, h⟩ := of_check_eq_ok h
        cases h
        refine .sampler (Store.require_eq_ok_iff.1 hs) ?_ hr
        rw [not_not.1 hcomparison]
        exact decide_eq_true_iff
      · cases h

/-- The cases are all there are. -/
theorem Resolves.resolve_eq_ok (h : Resolves c a b.kind r) (ha : table.assignment? b.name = some a) :
    resolve c table group b = .ok r := by
  unfold resolve
  rw [ha]
  generalize b.kind = k at h
  cases h with
  | uniformBuffer hr h =>
    simp only [if_pos hr, Store.require_eq_ok_iff.2 h]
    rfl
  | storageBuffer hr h hk =>
    simp only [if_pos hr, Store.require_eq_ok_iff.2 h]
    exact if_neg hk
  | texture h hr | storageTexture h hr =>
    simp only [if_pos hr, Store.require_eq_ok_iff.2 h]
    rfl
  | @sampler comparison s h hk hr =>
    have hcomparison : comparison = decide (s.kind = .comparison) := by
      rw [Bool.eq_iff_iff, hk, decide_eq_true_iff]
    simp only [if_pos hr, Store.require_eq_ok_iff.2 h]
    exact if_neg (not_not.2 hcomparison)

/-- Behind a buffer binding is the buffer that is assigned to its name. -/
theorem Resolves.exists_buffer {kind : ResourceKind} (h : Resolves c a kind r)
    (hkind : kind.isBuffer) :
    ∃ buffer, r = .buffer buffer ∧ c.buffers.get? a.resource = some buffer := by
  cases h with
  | uniformBuffer _ h | storageBuffer _ h => exact ⟨_, rfl, h⟩
  | texture | storageTexture | sampler => cases hkind

/-- Where a buffer stands behind a binding, a buffer is bound, and assigned in the role of one. -/
theorem Resolves.of_buffer {kind : ResourceKind} {buffer : Buffer}
    (h : Resolves c a kind (.buffer buffer)) :
    kind.isBuffer ∧ a.role.isBoundBuffer ∧ c.buffers.get? a.resource = some buffer := by
  cases h with
  | uniformBuffer hr hb => exact ⟨rfl, by rw [hr]; rfl, hb⟩
  | storageBuffer hr hb => exact ⟨rfl, by rw [Role.isBoundBuffer, hr, Bool.or_true], hb⟩

/-- Whatever stands behind a binding has a layout type. -/
theorem Resolves.exists_type (h : Resolves c a b.kind r) : ∃ type, b.type r = .ok type := by
  unfold MergedBinding.type
  generalize b.kind = k at h
  cases h with
  | @sampler comparison => cases comparison <;> exact ⟨_, rfl⟩
  | uniformBuffer | storageBuffer | texture | storageTexture => exact ⟨_, rfl⟩

/-! ## Fitting -/

/-- A bound device object that belongs to the assigned resource and that a layout entry of the given
type can take. -/
inductive Fits (c : Context) (a : Assignment) : BindingType → BoundResource → Prop
  | uniformBuffer {minSize size : Option Nat} {kind : BufferKind} {serial offset : Nat}
      (h : c.HasBuffer a.resource kind serial) (hu : kind.usage.uniform) :
      Fits c a (.uniformBuffer minSize) (.buffer serial offset size)
  | storageBuffer {readOnly : Bool} {minSize size : Option Nat} {kind : BufferKind}
      {serial offset : Nat} (h : c.HasBuffer a.resource kind serial) (hu : kind.usage.storage) :
      Fits c a (.storageBuffer readOnly minSize) (.buffer serial offset size)
  | texture {sample : SampleType} {dimension : ViewDimension} {multisampled : Bool}
      {format : TextureFormat} {v : View} (h : c.HasTexture a.resource format false v) :
      Fits c a (.texture sample dimension multisampled) (.view v)
  | storageTexture {access : StorageAccess} {format : TextureFormat} {dimension : ViewDimension}
      {v : View} (h : c.HasTexture a.resource format true v) :
      Fits c a (.storageTexture access format dimension) (.view v)
  | sampler {kind : SamplerKind} {serial : Nat} (h : c.HasSampler a.resource kind serial) :
      Fits c a (.sampler kind) (.sampler serial)

theorem Fits.later {type : BindingType} {bound : BoundResource} (h : Fits c a type bound)
    (hc : Retains c c') : Fits c' a type bound := by
  cases h with
  | uniformBuffer h hu => exact .uniformBuffer (h.later hc) hu
  | storageBuffer h hu => exact .storageBuffer (h.later hc) hu
  | texture h => exact .texture (h.later hc)
  | storageTexture h => exact .storageTexture (h.later hc)
  | sampler h => exact .sampler (h.later hc)

/-- The entries for a binding: both have its slot, what is bound fits what the layout takes, and the
layout takes a comparison sampler exactly if the shader compares. -/
structure EntryFits (c : Context) (table : UniformTable) (b : MergedBinding) (le : LayoutEntry)
    (ge : GroupEntry) : Prop where
  layout : le.binding = b.binding
  group : ge.binding = b.binding
  fits : ∃ a, table.assignment? b.name = some a ∧ Fits c a le.type ge.resource
  comparison : le.type = .sampler .comparison ↔ b.kind = .sampler true

theorem EntryFits.later {le : LayoutEntry} {ge : GroupEntry} (h : EntryFits c table b le ge)
    (hc : Retains c c') : EntryFits c' table b le ge :=
  have ⟨a, ha, hfits⟩ := h.fits
  { h with fits := ⟨a, ha, hfits.later hc⟩ }

/-- The layout takes a comparison sampler exactly if the shader compares. -/
theorem Resolves.comparison {type : BindingType} (h : Resolves c a b.kind r)
    (htype : b.type r = .ok type) : type = .sampler .comparison ↔ b.kind = .sampler true := by
  unfold MergedBinding.type at htype
  generalize b.kind = k at h htype
  cases h with
  | @sampler comparison s _ hk =>
    cases comparison with
    | true =>
      cases htype
      exact ⟨fun _ => rfl, fun _ => rfl⟩
    | false =>
      cases htype
      have hne : s.kind ≠ .comparison := fun h => nomatch hk.2 h
      exact ⟨fun h => absurd (BindingType.sampler.inj h) hne, fun h => (nomatch h)⟩
  | uniformBuffer | storageBuffer | texture | storageTexture =>
    cases htype
    exact ⟨fun h => (nomatch h), fun h => (nomatch h)⟩

/-! ## Binding -/

variable {g : MergedGroup} {cuts cuts' : Cuts} {bound : BoundResource}

/-- Binding a buffer yields its device buffer, whatever range is cut from it. -/
theorem bindBuffer_has {id : ResourceId} {buffer : Buffer} (hc : c.Sound)
    (hb : c.buffers.get? id = some buffer)
    (h : bindBuffer table g b buffer cuts c = .ok (bound, cuts') c') :
    ∃ serial offset size, bound = .buffer serial offset size ∧
      c'.HasBuffer id buffer.kind serial := by
  obtain ⟨serial, c₁, hon, h⟩ := bind_eq_ok h
  replace hon := lift_eq_ok.1 hon
  rw [(hc.buffers id buffer hb).1] at hon
  have hhas := on_bufferHandle hc hb hon
  split at h
  · cases h
    exact ⟨serial, _, _, rfl, hhas⟩
  · rw [context_bind] at h
    obtain ⟨range, -, h⟩ := liftExcept_bind_eq_ok h
    cases h
    exact ⟨serial, _, _, rfl, hhas⟩

/-- Binding a texture yields a view of it. -/
theorem bindTexture_has {id : ResourceId} {t : Texture} (hc : c.Sound)
    (ht : c.textures.get? id = some t)
    (h : (bindTexture b t >>= fun v => pure (v, cuts)) c = .ok (bound, cuts') c') :
    ∃ v, bound = .view v ∧ c'.HasTexture id t.format b.kind.isStorageTexture v := by
  obtain ⟨bound', c₁, h, hpure⟩ := bind_eq_ok h
  cases hpure
  rw [bindTexture_eq] at h
  obtain ⟨v, c₁, hon, hpure⟩ := bind_eq_ok h
  cases hpure
  replace hon := lift_eq_ok.1 hon
  rw [(hc.textures id t ht).1] at hon
  exact ⟨v, rfl, on_bindView hc ht hon⟩

/-- Binding a sampler yields its device sampler. -/
theorem bindSampler_has {id : ResourceId} {s : Sampler} (hc : c.Sound)
    (hs : c.samplers.get? id = some s)
    (h : ((liftM (Work.on .samplers s.id Sampler.handle) : Work CompileError Nat) >>= fun serial =>
      pure (BoundResource.sampler serial, cuts)) c = .ok (bound, cuts') c') :
    ∃ serial, bound = .sampler serial ∧ c'.HasSampler id s.kind serial := by
  obtain ⟨serial, c₁, hon, hpure⟩ := bind_eq_ok h
  cases hpure
  replace hon := lift_eq_ok.1 hon
  rw [(hc.samplers id s hs).1] at hon
  exact ⟨serial, rfl, on_samplerHandle hc hs hon⟩

/-- **What is bound for a binding fits its layout entry.** -/
theorem bindResource_fits (hc : c.Sound) (hbag : table.assignments.OfResources c) {le : LayoutEntry}
    (hle : layoutEntry c table g.index b = .ok le)
    (h : bindResource table g b cuts c = .ok (bound, cuts') c') :
    EntryFits c' table b le ⟨b.binding, bound⟩ := by
  obtain ⟨r, hr, hentry⟩ := bind_eq_ok_iff.1 hle
  obtain ⟨type, htype, heq⟩ := bind_eq_ok_iff.1 hentry
  cases heq
  unfold bindResource at h
  rw [context_bind] at h
  obtain ⟨r', hr', hbind⟩ := liftExcept_bind_eq_ok h
  cases hr.symm.trans hr'
  obtain ⟨a, ha, hres⟩ := resolve_eq_ok hr
  have hassigns : c.Assigns a := hbag _ _ ha
  refine ⟨rfl, rfl, ⟨a, ha, ?_⟩, hres.comparison htype⟩
  unfold MergedBinding.type at htype
  generalize hk : b.kind = k at hres htype
  cases hres with
  | @uniformBuffer buffer hrole hb =>
    cases htype
    obtain ⟨serial, offset, size, rfl, hhas⟩ := bindBuffer_has hc hb hbind
    refine .uniformBuffer hhas (BufferKind.uniform_of_role ?_)
    rw [hassigns.role_of_buffer hc (by rw [hrole]; rfl) hb, hrole]
  | @storageBuffer readOnly buffer hrole hb =>
    cases htype
    obtain ⟨serial, offset, size, rfl, hhas⟩ := bindBuffer_has hc hb hbind
    have hbound : a.role.isBoundBuffer := by
      unfold Role.isBoundBuffer
      rw [hrole, Bool.or_true]
    refine .storageBuffer hhas (BufferKind.storage_of_role ?_)
    rw [hassigns.role_of_buffer hc hbound hb, hrole]
  | @texture dimension sample multisampled t ht =>
    cases htype
    obtain ⟨v, rfl, hhas⟩ := bindTexture_has hc ht hbind
    rw [hk] at hhas
    exact .texture hhas
  | @storageTexture dimension access format t ht =>
    cases htype
    obtain ⟨v, rfl, hhas⟩ := bindTexture_has hc ht hbind
    rw [hk] at hhas
    exact .storageTexture hhas
  | @sampler comparison s hs hcomparison =>
    obtain ⟨serial, rfl, hhas⟩ := bindSampler_has hc hs hbind
    cases comparison with
    | true =>
      cases htype
      exact .sampler (hcomparison.1 rfl ▸ hhas)
    | false =>
      cases htype
      exact .sampler hhas

theorem layoutEntry_congr (h : c'.bare = c.bare) :
    layoutEntry c' table group b = layoutEntry c table group b := by
  rw [← layoutEntry_bare, h, layoutEntry_bare]

/-- What binding establishes for each binding and no change that compiling makes destroys holds of the
entries in the end, if what it needs holds at first and no such change destroys it either. -/
theorem bindAll_forall₂ {I : Context → Prop} {P : MergedBinding → GroupEntry → Context → Prop}
    {bs : List MergedBinding} {ges : List GroupEntry}
    (keepI : ∀ c c', ReflTransGen Touch c c' → I c → I c')
    (keepP : ∀ b ge c c', ReflTransGen Touch c c' → P b ge c → P b ge c')
    (round : ∀ b ∈ bs, ∀ c cuts bound cuts' c', I c →
      bindResource table g b cuts c = .ok (bound, cuts') c' → P b ⟨b.binding, bound⟩ c')
    (hc : I c) (h : bindAll table g bs cuts c = .ok ges c') :
    List.Forall₂ (fun b ge => P b ge c') bs ges := by
  induction bs generalizing c cuts ges with
  | nil =>
    cases h
    exact .nil
  | cons b bs ih =>
    obtain ⟨⟨bound, cuts'⟩, c₁, hbind, h₁⟩ := bind_eq_ok h
    obtain ⟨rest, c₂, hrest, h₂⟩ := bind_eq_ok h₁
    cases h₂
    have hfirst := (bindResource_touches g b cuts).of_eq_ok hbind
    have hothers := (bindAll_touches g bs cuts').of_eq_ok hrest
    refine .cons ?_ (ih (fun b' hb' => round b' (List.mem_cons_of_mem b hb')) (keepI _ _ hfirst hc)
      hrest)
    exact keepP _ _ _ _ hothers (round b List.mem_cons_self c cuts bound cuts' c₁ hc hbind)

end PassForge
