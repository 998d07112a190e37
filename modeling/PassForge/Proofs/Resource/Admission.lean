import PassForge.Proofs.Context.Durable
import PassForge.Proofs.Creation

/-!
# Which textures are created

Creating a texture checks what its description asks for and settles what it leaves open.

* `Texture.Admissible` is what a description has to satisfy, `Texture.Settled` what is made of it, and
  `Texture.create_eq_ok` and `Texture.Admissible.exists_create` say so of the constructor.
* `Texture.Admitted` is what holds of every texture but those of the surface. `Texture.Step.admitted` is
  the step lemma and `Context.Reachable.admitted` the run lemma.
* `admission_spec` is the whole statement.
-/

namespace PassForge

open Relation (ReflTransGen)

/-! ## The constructor -/

namespace Texture

variable {limits : Limits} {surfaceFormat format : TextureFormat} {kind : TextureKind} {layers : Nat}
  {desc : TextureDesc} {id : ResourceId} {t : Texture}

/-- What a description of a texture with so many layers has to satisfy. -/
structure Admissible (limits : Limits) (n : Nat) (desc : TextureDesc) : Prop where
  width : 1 ≤ desc.width ∧ desc.width ≤ limits.maxTextureDimension
  height : 1 ≤ desc.height ∧ desc.height ≤ limits.maxTextureDimension
  layers : n ≤ limits.maxTextureArrayLayers
  mips : ∀ requested, desc.mips = some requested → requested ≤ maxMipLevels desc.width desc.height
  contents : desc.contents = [] ∨ desc.contents.length = n

/-- The number of mips of a texture in a format. -/
def settledMips (desc : TextureDesc) (format : TextureFormat) : Nat :=
  if format.isDepthStencil ∨ 1 < desc.samples then 1
  else max (desc.mips.getD (maxMipLevels desc.width desc.height)) 1

theorem mipCount_eq_ok_iff {n : Nat} : mipCount id desc format = .ok n ↔
    desc.mips.getD (maxMipLevels desc.width desc.height) ≤ maxMipLevels desc.width desc.height ∧
      n = settledMips desc format := by
  unfold mipCount settledMips
  dsimp only
  split
  next h => simp [Nat.not_le.2 h]
  next h =>
    rw [Nat.not_lt] at h
    split <;> simp [h, eq_comm]

/-- What is made of a description. -/
structure Settled (surfaceFormat : TextureFormat) (k : TextureKind) (n : Nat) (desc : TextureDesc)
    (t : Texture) : Prop where
  kind : t.kind = k
  width : t.width = desc.width
  height : t.height = desc.height
  layers : t.layers = n
  format : t.format = desc.format.getD surfaceFormat
  samples : t.samples = desc.samples
  mips : t.mips = settledMips desc t.format
  usage : t.usage = desc.usage.union (impliedUsage k t.format)
  contents : t.contents = desc.contents

theorem settled_of_create (h : create limits surfaceFormat kind layers desc id = .ok t) :
    Admissible limits layers desc ∧ Settled surfaceFormat kind layers desc t := by
  unfold create at h
  obtain ⟨hzero, h⟩ := of_check_eq_ok h
  obtain ⟨hside, h⟩ := of_check_eq_ok h
  obtain ⟨hlayers, h⟩ := of_check_eq_ok h
  obtain ⟨n, hn, h⟩ := bind_eq_ok_iff.1 h
  obtain ⟨hcontents, h⟩ := of_check_eq_ok h
  obtain ⟨hmips, rfl⟩ := mipCount_eq_ok_iff.1 hn
  cases h
  refine ⟨⟨by omega, by omega, by omega, fun requested hr => ?_, ?_⟩,
    ⟨rfl, rfl, rfl, rfl, rfl, rfl, rfl, rfl, rfl⟩⟩
  · rwa [hr] at hmips
  · by_cases hnil : desc.contents = []
    · exact .inl hnil
    · exact .inr (not_not.1 fun hne => hcontents ⟨hnil, hne⟩)

theorem Admissible.exists_create (h : Admissible limits layers desc) :
    ∃ t, create limits surfaceFormat kind layers desc id = .ok t := by
  have hmips : mipCount id desc (desc.format.getD surfaceFormat) =
      .ok (settledMips desc (desc.format.getD surfaceFormat)) := by
    refine mipCount_eq_ok_iff.2 ⟨?_, rfl⟩
    cases hr : desc.mips with
    | none => exact Nat.le_refl _
    | some requested => exact h.mips requested hr
  have hzero : ¬(desc.width = 0 ∨ desc.height = 0) := by have := h.width; have := h.height; omega
  have hside : ¬limits.maxTextureDimension < max desc.width desc.height := by
    have := h.width; have := h.height; omega
  have hlayers : ¬limits.maxTextureArrayLayers < layers := Nat.not_lt.2 h.layers
  have hcontents : ¬(desc.contents ≠ [] ∧ desc.contents.length ≠ layers) := fun hc =>
    h.contents.elim hc.1 hc.2
  unfold create
  simp only [hzero, hside, hlayers, hcontents, hmips, if_false]
  exact ⟨_, rfl⟩

/-! ## Every texture -/

/-- What creating a texture has checked and settled, apart from the initial contents being used up. -/
structure Admitted (limits : Limits) (t : Texture) : Prop where
  width : 1 ≤ t.width ∧ t.width ≤ limits.maxTextureDimension
  height : 1 ≤ t.height ∧ t.height ≤ limits.maxTextureDimension
  layers : t.layers ≤ limits.maxTextureArrayLayers
  mips : 1 ≤ t.mips ∧ t.mips ≤ maxMipLevels t.width t.height
  single : t.format.isDepthStencil ∨ 1 < t.samples → t.mips = 1
  usage : t.usage.contains { copyTarget := true, textureBinding := true }
  storage : t.kind = .storage2d → t.usage.contains { storageBinding := true, copySource := true }
  depth : t.format.isDepthStencil → t.usage.contains { renderAttachment := true }
  contents : t.contents = [] ∨ t.contents.length = t.layers

theorem settledMips_bounds (h : Admissible limits layers desc) (format : TextureFormat) :
    1 ≤ settledMips desc format ∧ settledMips desc format ≤ maxMipLevels desc.width desc.height := by
  have hone : 1 ≤ maxMipLevels desc.width desc.height := Nat.le_max_right ..
  unfold settledMips
  split
  · exact ⟨Nat.le_refl _, hone⟩
  · refine ⟨Nat.le_max_right .., Nat.max_le.2 ⟨?_, hone⟩⟩
    cases hr : desc.mips with
    | none => exact Nat.le_refl _
    | some requested => exact h.mips requested hr

theorem Settled.admitted (h : Settled surfaceFormat kind layers desc t)
    (hd : Admissible limits layers desc) : t.Admitted limits where
  width := h.width ▸ hd.width
  height := h.height ▸ hd.height
  layers := h.layers ▸ hd.layers
  mips := by
    rw [h.mips, h.width, h.height]
    exact settledMips_bounds hd _
  single hsingle := by
    rw [h.samples] at hsingle
    rw [h.mips, settledMips, if_pos hsingle]
  usage := by simp [h.usage, TextureUsage.contains, TextureUsage.union, impliedUsage]
  storage hk := by
    rw [h.kind] at hk
    simp [h.usage, hk, TextureUsage.contains, TextureUsage.union, impliedUsage]
  depth hf := by simp [h.usage, hf, TextureUsage.contains, TextureUsage.union, impliedUsage]
  contents := by
    rw [h.contents, h.layers]
    exact hd.contents

/-- A step leaves the initial contents or uses them up, and nothing else that was checked changes. -/
theorem Step.admitted {l l' : Live Texture} (h : Step l l') (ht : l.object.Admitted limits) :
    l'.object.Admitted limits := by
  cases h with
  | use h =>
    cases h with
    | make => exact { ht with contents := .inl rfl }
    | view | keepSampled | keepStorage | sampled | storage | advance => exact { ht with }
  | write | ask | keepTarget | target | point | advance | setAutoAdvance | setHandler =>
    exact { ht with }

end Texture

namespace Context

variable {c c' : Context} {id : ResourceId}

/-- Every texture but those of the surface is admitted. -/
def AdmitsTextures (c : Context) : Prop :=
  c.textures.All fun _ t => t.kind ≠ .surface → t.Admitted c.device.limits

theorem AdmitsTextures.device {d : Device} (hc : c.AdmitsTextures) (hd : c.device.Later d) :
    AdmitsTextures { c with device := d } := by
  show c.textures.All fun _ t => t.kind ≠ .surface → t.Admitted d.limits
  rw [hd.limits]
  exact hc

theorem AdmitsTextures.put {t : Texture} {l : Live Texture} (hc : c.AdmitsTextures)
    (h : c.textures.get? id = some t) (hl : Texture.Step ⟨t, c.device⟩ l) :
    AdmitsTextures (Shelf.textures.put id l c) := by
  have hd := hc.device hl.serves.later
  refine hd.update h fun hk => ?_
  have hkind : l.object.kind = t.kind := (congrArg Texture.kind hl.fixed :)
  rw [hl.serves.limits]
  exact hl.admitted (hc id t h (hkind ▸ hk))

/-- A step keeps what creation has checked of textures. -/
theorem Step.admitsTextures (h : Step c c') (hc : c.AdmitsTextures) : c'.AdmitsTextures := by
  have hd := hc.device h.later
  cases h with
  | touch h =>
    cases h with
    | texture h hl => exact hc.put h (.use hl)
    | buffer | sampler | shader | layout | pipelineLayout | group => exact hd
  | texture h hl => exact hc.put h hl
  | addTexture _ _ _ _ ht =>
    obtain ⟨hadmissible, hsettled⟩ := Texture.settled_of_create ht
    exact Store.All.insert hc fun _ => hsettled.admitted hadmissible
  | addSurface => exact Store.All.insert hc fun hk => absurd rfl hk
  | _ => exact hd

/-- **What operations lead to has textures that were admitted.** -/
theorem Reachable.admitsTextures (h : Reachable c) : c.AdmitsTextures := by
  obtain ⟨d, hd⟩ := h
  induction hd with
  | refl => exact fun _ _ h => (nomatch h)
  | tail _ h ih => exact h.admitsTextures ih

end Context

/-! ## Calls -/

namespace Creation

variable {c c' : Context} {id : ResourceId} {k : Creation} {kind : TextureKind} {layers : Nat}
  {desc : TextureDesc}

/-- A call succeeds exactly if there is an object under its id or its constructor makes one. -/
theorem exists_run_iff (k : Creation) (c : Context) : (∃ id c', k.run c = .ok id c') ↔
    (k.claim c).1 ∈ c.ids k.registry ∨ ∃ a, k.make c (k.claim c).1 = .ok a := by
  obtain ⟨hold, hrun⟩ | ⟨hvacant, e, hmake, hrun⟩ | ⟨-, a, hmake, hrun⟩ := k.run_cases c
  · exact ⟨fun _ => .inl hold, fun _ => ⟨_, _, hrun⟩⟩
  · rw [hrun, hmake]
    exact ⟨fun ⟨_, _, h⟩ => (nomatch h), fun h => h.elim (absurd · hvacant) fun ⟨_, h⟩ => (nomatch h)⟩
  · exact ⟨fun _ => .inr ⟨a, hmake⟩, fun _ => ⟨_, _, hrun⟩⟩

/-- A call that finds no object under its id registers what its constructor has made. -/
theorem exists_made (h : k.run c = .ok id c') (hvacant : id ∉ c.ids k.registry) :
    ∃ a, k.make c id = .ok a ∧ (k.registry.shelf.get c').get? id = some a := by
  obtain ⟨hold, hrun⟩ | ⟨-, e, -, hrun⟩ | ⟨-, a, hmake, hrun⟩ := k.run_cases c
  · cases hrun.symm.trans h
    exact absurd hold hvacant
  · exact nomatch hrun.symm.trans h
  · cases hrun.symm.trans h
    refine ⟨a, hmake, ?_⟩
    rw [Shelf.Lawful.get_set, Store.get?_insert, if_pos rfl]

/-- A call asks for a texture of a kind, with so many layers. Only arrays are given a number. -/
inductive AsksTexture : Creation → TextureKind → Nat → TextureDesc → Prop
  | texture2d {desc : TextureDesc} : AsksTexture (.texture2d desc) .d2 1 desc
  | storageTexture2d {desc : TextureDesc} : AsksTexture (.storageTexture2d desc) .storage2d 1 desc
  | texture2dArray {layers : Nat} {desc : TextureDesc} :
      AsksTexture (.texture2dArray layers desc) .d2Array layers desc
  | textureCube {desc : TextureDesc} : AsksTexture (.textureCube desc) .cube 6 desc

theorem AsksTexture.exists_run_iff (h : AsksTexture k kind layers desc) (c : Context) :
    (∃ id c', k.run c = .ok id c') ↔ (k.claim c).1 ∈ c.ids .textures ∨
      Texture.Admissible c.device.limits layers desc := by
  have hmake {kind : TextureKind} {layers : Nat} {desc : TextureDesc} {id : ResourceId} :
      (∃ t, Texture.create c.device.limits c.device.surfaceFormat kind layers desc id = .ok t) ↔
        Texture.Admissible c.device.limits layers desc :=
    ⟨fun ⟨_, ht⟩ => (Texture.settled_of_create ht).1, fun hd => hd.exists_create⟩
  cases h with
  | texture2d | storageTexture2d | texture2dArray | textureCube =>
    rw [Creation.exists_run_iff]
    exact or_congr Iff.rfl hmake

theorem AsksTexture.exists_made (h : AsksTexture k kind layers desc) (hrun : k.run c = .ok id c')
    (hvacant : id ∉ c.ids .textures) : ∃ t, c'.textures.get? id = some t ∧
      Texture.Admissible c.device.limits layers desc ∧
      t.Settled c.device.surfaceFormat kind layers desc := by
  cases h with
  | texture2d | storageTexture2d | texture2dArray | textureCube =>
    obtain ⟨t, hmake, hget⟩ := Creation.exists_made hrun hvacant
    exact ⟨t, hget, Texture.settled_of_create hmake⟩

theorem AsksTexture.kind_ne_surface (h : AsksTexture k kind layers desc) : kind ≠ .surface := by
  cases h <;> decide

theorem AsksTexture.one_le_layers_iff (h : AsksTexture k kind layers desc) :
    1 ≤ layers ↔ k ≠ .texture2dArray 0 desc := by
  cases h with
  | texture2d | storageTexture2d | textureCube => simp
  | texture2dArray =>
    rw [Nat.one_le_iff_ne_zero, ne_eq, ne_eq, Creation.texture2dArray.injEq, and_iff_left rfl]

theorem AsksTexture.runs (h : AsksTexture k kind layers desc) : Runs Context.Step k.run := by
  cases h with
  | texture2d => exact Work.createTexture2d_runs _
  | storageTexture2d => exact Work.createStorageTexture2d_runs _
  | texture2dArray => exact Work.createTexture2dArray_runs _ _
  | textureCube => exact Work.createTextureCube_runs _

/-- The texture that a call has made is admitted for good, and keeps its layers. -/
theorem AsksTexture.admitted {c₂ : Context} {t : Texture} (h : AsksTexture k kind layers desc)
    (hc : c'.Reachable) (ht : c'.textures.get? id = some t)
    (hsettled : t.Settled c.device.surfaceFormat kind layers desc)
    (hsteps : ReflTransGen Context.Step c' c₂) : ∃ t₂, c₂.textures.get? id = some t₂ ∧
      t₂.Admitted c₂.device.limits ∧ (1 ≤ t₂.layers ↔ k ≠ .texture2dArray 0 desc) := by
  obtain ⟨t₂, ht₂, hfixed⟩ := (Context.lasting_of_steps hc hsteps).fixedTexture ht
  have hkind : t₂.kind = t.kind := (congrArg Texture.kind hfixed :)
  have hlayers : t₂.layers = t.layers := (congrArg Texture.layers hfixed :)
  refine ⟨t₂, ht₂, (hc.steps hsteps).admitsTextures id t₂ ht₂ ?_, ?_⟩
  · rw [hkind, hsettled.kind]
    exact h.kind_ne_surface
  · rw [hlayers, hsettled.layers]
    exact h.one_le_layers_iff

end Creation

/-- **Which textures there are.** In a context that operations lead to:

* Every texture but those of the surface has a size within the device limits, a positive number of mips
  that its size allows, one mip if it is a depth-stencil or multisampled texture, the usages of its kind
  and format, and initial contents for each layer or none.
* A call that creates a texture succeeds exactly if its description is admissible, or a texture stands
  under its id already.
* The new texture is as the description asks for, and admitted whatever comes next. It has a layer
  exactly if the call is not one for an array of none: a description needs a width and a height, but the
  number of layers is only compared with the limit. -/
theorem admission_spec {c : Context} (hc : c.Reachable) :
    (∀ id t, c.textures.get? id = some t → t.kind ≠ .surface → t.Admitted c.device.limits) ∧
    ∀ (k : Creation) (kind : TextureKind) (layers : Nat) (desc : TextureDesc),
      k.AsksTexture kind layers desc →
      ((∃ id c', k.run c = .ok id c') ↔ (k.claim c).1 ∈ c.ids .textures ∨
        Texture.Admissible c.device.limits layers desc) ∧
      ∀ id c', k.run c = .ok id c' → id ∉ c.ids .textures → ∃ t, c'.textures.get? id = some t ∧
        t.Settled c.device.surfaceFormat kind layers desc ∧
        ∀ c₂, ReflTransGen Context.Step c' c₂ → ∃ t₂, c₂.textures.get? id = some t₂ ∧
          t₂.Admitted c₂.device.limits ∧ (1 ≤ t₂.layers ↔ k ≠ .texture2dArray 0 desc) := by
  refine ⟨hc.admitsTextures, fun k kind layers desc hk => ⟨hk.exists_run_iff c,
    fun id c' h hvacant => ?_⟩⟩
  obtain ⟨t, ht, -, hsettled⟩ := hk.exists_made h hvacant
  have hreachable : c'.Reachable := by
    rw [← after_ok h]
    exact hc.runs hk.runs
  exact ⟨t, ht, hsettled, fun c₂ hsteps => hk.admitted hreachable ht hsettled hsteps⟩

namespace LayeredTexture

/-- An array of three layers with one mip less than it could have. -/
def desc : TextureDesc where
  width := 16
  height := 4
  format := some .rgba8Unorm
  mips := some 3
  contents := [#[1], #[2], #[3]]

/-- The call that creates it. -/
def created : Creation := .texture2dArray 3 desc

/-- A call for an array without layers. -/
def empty : Creation := .texture2dArray 0 { width := 4, height := 4 }

end LayeredTexture

/-- The array is created with the mips that are asked for, and whatever happens to it stays admitted. -/
theorem admission_layeredTexture : (Context.start {}).Reachable ∧
    LayeredTexture.created.AsksTexture .d2Array 3 LayeredTexture.desc ∧
    ∃ c' t, LayeredTexture.created.run (.start {}) = .ok ⟨1⟩ c' ∧
      c'.textures.get? ⟨1⟩ = some t ∧ t.layers = 3 ∧ t.mips = 3 ∧
      ∀ c₂, ReflTransGen Context.Step c' c₂ → ∃ t₂, c₂.textures.get? ⟨1⟩ = some t₂ ∧
        t₂.Admitted c₂.device.limits ∧ 1 ≤ t₂.layers := by
  have hc : (Context.start {}).Reachable := ⟨.start {}, .refl⟩
  have hasks : LayeredTexture.created.AsksTexture .d2Array 3 LayeredTexture.desc := .texture2dArray
  have hout : outcome LayeredTexture.created.run (.start {}) = .ok ⟨1⟩ := by decide +kernel
  obtain ⟨-, hcalls⟩ := admission_spec hc
  obtain ⟨t, ht, hsettled, hlater⟩ :=
    (hcalls _ _ _ _ hasks).2 ⟨1⟩ _ (eq_ok_of_outcome hout) (fun h => nomatch h)
  refine ⟨hc, hasks, _, t, eq_ok_of_outcome hout, ht, hsettled.layers, ?_, fun c₂ hsteps => ?_⟩
  · rw [hsettled.mips, hsettled.format]
    decide
  · obtain ⟨t₂, ht₂, hadmitted, hlayers⟩ := hlater c₂ hsteps
    exact ⟨t₂, ht₂, hadmitted, hlayers.2 fun h => nomatch h⟩

/-- An array without layers is created, although a texture without width or height is not. -/
theorem exists_texture_without_layers : ∃ c' t,
    LayeredTexture.empty.run (.start {}) = .ok ⟨1⟩ c' ∧ c'.textures.get? ⟨1⟩ = some t ∧
    t.kind ≠ .surface ∧ t.layers = 0 := by
  have hout : outcome LayeredTexture.empty.run (.start {}) = .ok ⟨1⟩ := by decide +kernel
  have htexture : ((after LayeredTexture.empty.run (.start {})).textures.get? ⟨1⟩).map
      (fun t => (t.kind, t.layers)) = some (.d2Array, 0) := by cbv
  obtain ⟨t, ht, heq⟩ := Option.map_eq_some_iff.1 htexture
  obtain ⟨hkind, hlayers⟩ := Prod.mk.inj heq
  exact ⟨_, t, eq_ok_of_outcome hout, ht, hkind ▸ by decide, hlayers⟩

end PassForge
