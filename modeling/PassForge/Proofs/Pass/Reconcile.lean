import Mathlib
import PassForge.Proofs.Context.Operations
import PassForge.Proofs.Pass.Bindings

/-!
# Textures behind bindings

A shader declares what it expects of a texture, a texture is what it was created as, and both have a
part in what is bound. The layout takes what the shader declares, except that the format of a storage
texture is that of the texture, and floats are interpolated exactly if the format of the texture
allows it. The view is the texture's alone. That the two agree is left to whoever assigns the texture.

* `Texture.BoundAs` says what is bound, for any texture and any declaration.
* `Texture.Agrees` is the agreement of view, layout and texture, and `Texture.Suits` is what it takes of
  the texture; `Texture.BoundAs.agrees_iff` ties the two.
* `TexturesBound` is what making the bind group of a layout leaves; `BindsUniforms.texturesBound` proves
  it of all layouts of a pass.
* `reconcile_spec` is the whole statement. `exists_texture_not_agrees` is a pass whose textures agree in
  nothing.
-/

namespace PassForge

open Context (Touch Retains)
open Relation (ReflTransGen)

variable {c c' : Context} {table : UniformTable} {b : MergedBinding}

/-! ## Views and declarations -/

/-- Whether a texture is expected, for sampling or for storage access. -/
def ResourceKind.isTexture : ResourceKind → Bool
  | texture _ _ _ | storageTexture _ _ _ => true
  | _ => false

/-- The class of values of a sample type. -/
def SampleType.kind : SampleType → SampleKind
  | float _ => .float
  | depth => .depth
  | sint => .sint
  | uint => .uint

theorem SampleKind.kind_typeFor (k : SampleKind) (t : Texture) : (k.typeFor t).kind = k := by
  cases k <;> rfl

/-- The sample type of a binding depends on the format of the texture alone. -/
theorem SampleKind.typeFor_congr {t t' : Texture} (h : t'.format = t.format) (k : SampleKind) :
    k.typeFor t' = k.typeFor t := by
  cases k with
  | float =>
    show SampleType.float (t'.format.info.sample = _) = _
    rw [h]
    rfl
  | depth | sint | uint => rfl

namespace Texture

variable {t : Texture} {d : Device} {kind : ResourceKind} {type : BindingType} {v : View}

/-- What a layout takes for a texture behind a binding of a kind, and the view of the texture that is
bound. -/
inductive BoundAs (t : Texture) (d : Device) : ResourceKind → BindingType → View → Prop
  | sampled {dimension : ViewDimension} {sample : SampleKind} {multisampled : Bool} {v : View}
      (h : t.Shows false d v) :
      BoundAs t d (.texture dimension sample multisampled)
        (.texture (sample.typeFor t) dimension multisampled) v
  | storage {dimension : ViewDimension} {access : StorageAccess} {format : String} {v : View}
      (h : t.Shows true d v) :
      BoundAs t d (.storageTexture dimension access format)
        (.storageTexture access t.format dimension) v

/-- The view has the dimension that the layout takes. Beside that, the samples of the texture are of
the class and number that the layout takes, or its format is the one that the shader declares. -/
def Agrees (t : Texture) (kind : ResourceKind) (type : BindingType) (v : View) : Prop :=
  match kind, type with
  | .texture _ _ _, .texture sample dimension multisampled =>
    v.dimension = some dimension ∧ sample.kind = t.sampleType.kind ∧
      (multisampled = true ↔ 1 < t.samples)
  | .storageTexture _ _ format, .storageTexture _ _ dimension =>
    v.dimension = some dimension ∧ t.format.info.title = format
  | _, _ => False

/-- A texture is what a binding declares. -/
def Suits (t : Texture) : ResourceKind → Prop
  | .texture dimension sample multisampled =>
    t.kind.sampledDimension = dimension ∧ t.sampleType.kind = sample ∧
      (multisampled = true ↔ 1 < t.samples)
  | .storageTexture dimension _ format =>
    t.kind.storageDimension = dimension ∧ t.format.info.title = format
  | _ => False

/-- A view for sampling has the dimension of the whole texture. -/
theorem Shows.sampledDimension (h : t.Shows false d v) :
    v.dimension = some t.kind.sampledDimension := by
  obtain ⟨image, -, hview⟩ := h
  rw [hview.dimension]
  cases t.kind <;> rfl

/-- A view for storage access has the dimension of one mip of the texture. -/
theorem Shows.storageDimension (h : t.Shows true d v) :
    v.dimension = some t.kind.storageDimension := by
  obtain ⟨image, -, level, -, hview⟩ := h
  rw [hview.dimension]
  cases t.kind <;> rfl

theorem BoundAs.later {t' : Texture} {d' : Device} (h : t.BoundAs d kind type v)
    (hbare : t'.bare = t.bare) (hshows : ∀ storage, t.Shows storage d v → t'.Shows storage d' v) :
    t'.BoundAs d' kind type v := by
  have hformat : t'.format = t.format := field_of_bare Texture.format (fun _ => rfl) hbare
  cases h with
  | @sampled _ sample _ _ h =>
    rw [← SampleKind.typeFor_congr hformat]
    exact .sampled (hshows false h)
  | storage h =>
    rw [← hformat]
    exact .storage (hshows true h)

/-- What is bound agrees exactly if the texture is what the binding declares. -/
theorem BoundAs.agrees_iff (h : t.BoundAs d kind type v) : t.Agrees kind type v ↔ t.Suits kind := by
  cases h with
  | sampled h =>
    show v.dimension = _ ∧ _ ∧ _ ↔ _ ∧ _ ∧ _
    rw [h.sampledDimension, Option.some_inj, SampleKind.kind_typeFor, eq_comm (b := t.sampleType.kind)]
  | storage h =>
    show v.dimension = _ ∧ _ ↔ _ ∧ _
    rw [h.storageDimension, Option.some_inj]

end Texture

/-! ## Entries -/

/-- The entries for a texture binding: both have its slot, a view of the texture that is assigned to
its name is bound, and it agrees exactly if the texture is what the binding declares. -/
structure TextureEntry (c : Context) (table : UniformTable) (b : MergedBinding) (le : LayoutEntry)
    (ge : GroupEntry) : Prop where
  layout : le.binding = b.binding
  group : ge.binding = b.binding
  bound : ∃ a t v, table.assignment? b.name = some a ∧ c.textures.get? a.resource = some t ∧
    ge.resource = .view v ∧ t.BoundAs c.device b.kind le.type v ∧
    (t.Agrees b.kind le.type v ↔ t.Suits b.kind)

theorem TextureEntry.later {le : LayoutEntry} {ge : GroupEntry} (h : TextureEntry c table b le ge)
    (hc : Retains c c') : TextureEntry c' table b le ge := by
  obtain ⟨a, t, v, ha, ht, hv, hbound, -⟩ := h.bound
  obtain ⟨t', ht', hbare, hdevice⟩ := Retains.exists_keeps hc.textures hc.deviceTextures ht
  have hbound' := hbound.later hbare fun _ hshows =>
    hshows.later hbare hc.later hc.surface hdevice
  exact { h with bound := ⟨a, t', v, ha, ht', hv, hbound', hbound'.agrees_iff⟩ }

/-- Binding a texture gives the entry of its layout entry. -/
theorem bindResource_texture {g : MergedGroup} {cuts cuts' : Cuts} {bound : BoundResource}
    {le : LayoutEntry} (hc : c.Sound) (hkind : b.kind.isTexture)
    (hle : layoutEntry c table g.index b = .ok le)
    (h : bindResource table g b cuts c = .ok (bound, cuts') c') :
    TextureEntry c' table b le ⟨b.binding, bound⟩ := by
  obtain ⟨r, hr, hentry⟩ := bind_eq_ok_iff.1 hle
  obtain ⟨type, htype, heq⟩ := bind_eq_ok_iff.1 hentry
  cases heq
  unfold bindResource at h
  rw [context_bind] at h
  obtain ⟨r', hr', hbind⟩ := liftExcept_bind_eq_ok h
  cases hr.symm.trans hr'
  obtain ⟨a, ha, hres⟩ := resolve_eq_ok hr
  -- what is bound is a view of the texture, which still has the format that the layout took
  suffices hview : ∃ v t, bound = .view v ∧ c'.textures.get? a.resource = some t ∧
      t.BoundAs c'.device b.kind type v by
    obtain ⟨v, t, rfl, ht, hbound⟩ := hview
    exact ⟨rfl, rfl, a, t, v, ha, ht, rfl, hbound, hbound.agrees_iff⟩
  unfold MergedBinding.type at htype
  generalize hk : b.kind = k at hres htype hkind
  cases hres with
  | @texture dimension sample multisampled t ht =>
    cases htype
    obtain ⟨v, rfl, t', ht', hformat, hshows⟩ := bindTexture_has hc ht hbind
    rw [hk] at hshows
    rw [← SampleKind.typeFor_congr hformat]
    exact ⟨v, t', rfl, ht', .sampled hshows⟩
  | @storageTexture dimension access format t ht =>
    cases htype
    obtain ⟨v, rfl, t', ht', hformat, hshows⟩ := bindTexture_has hc ht hbind
    rw [hk] at hshows
    rw [← hformat]
    exact ⟨v, t', rfl, ht', .storage hshows⟩
  | uniformBuffer | storageBuffer | sampler => exact nomatch hkind

/-- A bind group that a device has made for a layout, with the entries for each texture binding of the
group at the same place of both. -/
structure TexturesBound (c : Context) (table : UniformTable) (l : GroupLayout) (serial : Nat)
    (entries : List GroupEntry) : Prop where
  layout : .bindGroupLayoutCreated l.layout ("bind group layout " ++ toString l.group.index)
    l.entries ∈ c.device.trace
  made : .bindGroupCreated serial ("bind group " ++ toString l.group.index) l.layout entries ∈
    c.device.trace
  textures : ∀ (i : Nat) (b : MergedBinding), l.group.bindings[i]? = some b → b.kind.isTexture →
    ∃ le ge, l.entries[i]? = some le ∧ entries[i]? = some ge ∧ TextureEntry c table b le ge

theorem TexturesBound.later {l : GroupLayout} {serial : Nat} {entries : List GroupEntry}
    (h : TexturesBound c table l serial entries) (hc : Retains c c') :
    TexturesBound c' table l serial entries where
  layout := hc.later.mem h.layout
  made := hc.later.mem h.made
  textures i b hb hkind :=
    have ⟨le, ge, hle, hge, hentry⟩ := h.textures i b hb hkind
    ⟨le, ge, hle, hge, hentry.later hc⟩

/-- The bind groups of a run bind textures as its layouts take them. -/
theorem BindsUniforms.texturesBound {label : Option String} {stages : List ShaderInterface}
    {layouts : List GroupLayout} {layout : Nat} {groups : List Nat} (hc : c.Sound)
    (h : BindsUniforms label stages table layouts layout groups c c') :
    merge stages c.device.limits.maxBindGroups = .ok (layouts.map GroupLayout.group) ∧
      List.Forall₂ (fun l serial => ∃ entries, TexturesBound c' table l serial entries) layouts
        groups := by
  obtain ⟨c₁, c₂, h₁, h₂, h₃⟩ := h
  have ht₂ := ((makeLayouts_touches stages).of_eq_ok h₁).trans
    ((makePipelineLayout_touches label layouts).of_eq_ok h₂)
  obtain ⟨hmerge, hmade⟩ := makeLayouts_made h₁
  have hentries := makeBindGroups_forall₂ (I := fun c' => c'.Sound ∧ c'.bare = c.bare)
    (P := fun l b ge c' => ∀ le, b.kind.isTexture →
      layoutEntry c table l.group.index b = .ok le → TextureEntry c' table b le ge)
    (fun _ _ ht h => ⟨Context.sound_of_touches ht h.1,
      (Context.spared_of_touches ht).bare.trans h.2⟩)
    (fun _ _ _ _ _ ht h le hkind hle => (h le hkind hle).later (Context.retains_of_touches ht))
    (fun _ _ _ _ _ _ _ _ _ hready hbind _ hkind hle => bindResource_texture hready.1 hkind
      ((layoutEntry_congr hready.2).trans hle) hbind)
    ⟨Context.sound_of_touches ht₂ hc, (Context.spared_of_touches ht₂).bare⟩ h₃
  refine ⟨hmerge, ((List.forall₂_and_left _ _).2 ⟨hmade, hentries⟩).imp
    fun l serial ⟨hlayout, entries, hevent, hall⟩ => ⟨entries, ?_, hevent, fun i b hb hkind => ?_⟩⟩
  · have hlater := Context.retains_of_touches (((makePipelineLayout_touches label layouts).of_eq_ok
      h₂).trans ((makeBindGroups_touches layouts).of_eq_ok h₃))
    exact hlater.later.mem hlayout.made
  · obtain ⟨hi, rfl⟩ := List.getElem?_eq_some_iff.1 hb
    have hlength := hlayout.entries.length_eq
    have hlength' := hall.length_eq
    have hle := hlayout.entries.get hi (hlength ▸ hi)
    exact ⟨l.entries[i], entries[i], by simp, by simp, hall.get hi (hlength' ▸ hi) _ hkind hle⟩

/-! ## Compiling -/

theorem RenderDesc.compile_texturesBound {d : RenderDesc} {r : RenderPass} (hc : c.Sound)
    (h : d.compile c = .ok r c') : ∃ vertexShader fragmentShader vertex fragment table layouts,
      d.vertexShader = some vertexShader ∧ d.fragmentShader = some fragmentShader ∧
      c.Reflects .vertex vertexShader vertex ∧ c.Reflects .fragment fragmentShader fragment ∧
      d.uniforms.uniforms = .ok table ∧
      merge [vertex, fragment] c.device.limits.maxBindGroups =
        .ok (layouts.map GroupLayout.group) ∧
      List.Forall₂ (fun l serial => ∃ entries, TexturesBound c' table l serial entries) layouts
        r.bindGroups := by
  obtain ⟨vertexShader, fragmentShader, vertex, fragment, table, layouts, layout, c₀, c₁, hvs, hfs,
    hvertex, hfragment, htable, ht, hbinds, hretains⟩ := compile_binds hc h
  obtain ⟨hmerge, hbound⟩ := hbinds.texturesBound (Context.sound_of_touches ht hc)
  rw [(Context.spared_of_touches ht).device.limits] at hmerge
  exact ⟨vertexShader, fragmentShader, vertex, fragment, table, layouts, hvs, hfs, hvertex, hfragment,
    htable, hmerge, hbound.imp fun _ _ ⟨entries, hentries⟩ => ⟨entries, hentries.later hretains⟩⟩

theorem ComputeDesc.compile_texturesBound {d : ComputeDesc} {r : ComputePass} (hc : c.Sound)
    (h : d.compile c = .ok r c') : ∃ shader i table layouts, d.shader = some shader ∧
      c.Reflects .compute shader i ∧ d.uniforms.uniforms = .ok table ∧
      merge [i] c.device.limits.maxBindGroups = .ok (layouts.map GroupLayout.group) ∧
      List.Forall₂ (fun l serial => ∃ entries, TexturesBound c' table l serial entries) layouts
        r.bindGroups := by
  obtain ⟨shader, i, table, layouts, layout, c₀, c₁, hs, hi, htable, ht, hbinds, hretains⟩ :=
    compile_binds hc h
  obtain ⟨hmerge, hbound⟩ := hbinds.texturesBound (Context.sound_of_touches ht hc)
  rw [(Context.spared_of_touches ht).device.limits] at hmerge
  exact ⟨shader, i, table, layouts, hs, hi, htable, hmerge,
    hbound.imp fun _ _ ⟨entries, hentries⟩ => ⟨entries, hentries.later hretains⟩⟩

/-- **What is bound behind a texture binding agrees with the shader exactly if the texture is what the
shader declares.** For each texture binding of the merged groups of a compiled pass, the layout takes
what the shader has declared, but for the format of a storage texture, which is that of the texture, and
the filtering of floats, which the format of the texture allows or not. Bound is a view of the texture
that is assigned to the name, as its kind has it: of all mips for sampling, and of one for storage
access. Nothing else is compared. -/
theorem reconcile_spec (hc : c.Reachable) :
    (∀ (d : RenderDesc) (r : RenderPass) (c' : Context), d.compile c = .ok r c' →
      ∃ vertexShader fragmentShader vertex fragment table layouts,
        d.vertexShader = some vertexShader ∧ d.fragmentShader = some fragmentShader ∧
        c.Reflects .vertex vertexShader vertex ∧ c.Reflects .fragment fragmentShader fragment ∧
        d.uniforms.uniforms = .ok table ∧
        merge [vertex, fragment] c.device.limits.maxBindGroups =
          .ok (layouts.map GroupLayout.group) ∧
        List.Forall₂ (fun l serial => ∃ entries, TexturesBound c' table l serial entries) layouts
          r.bindGroups) ∧
    ∀ (d : ComputeDesc) (r : ComputePass) (c' : Context), d.compile c = .ok r c' →
      ∃ shader i table layouts, d.shader = some shader ∧ c.Reflects .compute shader i ∧
        d.uniforms.uniforms = .ok table ∧
        merge [i] c.device.limits.maxBindGroups = .ok (layouts.map GroupLayout.group) ∧
        List.Forall₂ (fun l serial => ∃ entries, TexturesBound c' table l serial entries) layouts
          r.bindGroups :=
  ⟨fun _ _ _ h => RenderDesc.compile_texturesBound hc.sound h,
    fun _ _ _ h => ComputeDesc.compile_texturesBound hc.sound h⟩

namespace Mismatch

/-- A compute shader that samples floats of a two-dimensional texture and writes an array of
textures. -/
def code : ShaderModule where
  globals := [
    { name := "shade", space := .handle, type := .image .d2 (.sampled .float false),
      slot := some ⟨0, 0⟩ },
    { name := "slices", space := .handle,
      type := .image .d2Array (.storage "rgba8unorm" ⟨false, true⟩), slot := some ⟨0, 1⟩ }]
  entryPoints := [
    { name := "main", stage := .pipeline .compute, uses := ["shade", "slices"] }]

/-- What the shader has declared. -/
def interface : ShaderInterface where
  entryPoint := "main"
  stage := .compute
  bindings := [⟨"shade", 0, 0, .texture .d2 .float false, none⟩,
    ⟨"slices", 0, 1, .storageTexture .d2Array .writeOnly "Rgba8Unorm", none⟩]
  workgroupSize := [1, 1, 1]

/-- Its bindings. -/
def group : MergedGroup where
  index := 0
  bindings := [⟨"shade", 0, .texture .d2 .float false, none, Stage.compute.visibility⟩,
    ⟨"slices", 1, .storageTexture .d2Array .writeOnly "Rgba8Unorm", none, Stage.compute.visibility⟩]

/-- Creates a cube of integers with four samples, a texture for storage access and the shader. -/
def setup : Work ResourceError Unit := do
  let _ ← Work.createTextureCube { width := 8, height := 8, format := some .r32Uint, samples := 4 }
  let _ ← Work.createStorageTexture2d { width := 8, height := 8, format := some .rgba16Float }
  let _ ← Work.createShader .compute { code := code, entryPoint := "main" }

/-- The context with these resources. -/
def context : Context := after setup (.start {})

theorem reachable : context.Reachable := by
  refine Context.Reachable.runs ⟨.start {}, .refl⟩ ?_
  exact (Work.createTextureCube_runs _).bind fun _ => (Work.createStorageTexture2d_runs _).bind
    fun _ => (Work.createShader_runs _ _).bind fun _ => runs_pure ()

/-- A pass that binds the cube for sampling and the other texture as the array. -/
def pass : ComputeDesc where
  shader := some ⟨3⟩
  uniforms := .ofList [("shade", ⟨⟨1⟩, .textureCube⟩), ("slices", ⟨⟨2⟩, .textureStorage2D⟩)]
  dispatch := .workgroups 1 1 1

/-- What compiling the pass leaves. -/
def compiled : Context := after pass.compile context

/-- The view of the cube that is bound. -/
def cubeView : View where
  serial := 6
  texture := 5
  dimension := some .cube
  mips := some 1
  layers := some 6

/-- The view of the first mip of the other texture. -/
def mipView : View where
  serial := 8
  texture := 7
  dimension := some .d2
  mips := some 1
  layers := some 1

theorem compiles : ∃ r, pass.compile context = .ok r compiled ∧ r.bindGroups = [11] := by
  have hout : (outcome pass.compile context).map ComputePass.bindGroups = .ok [11] := by cbv
  cases h : outcome pass.compile context with
  | error e =>
    rw [h] at hout
    cases hout
  | ok r =>
    rw [h] at hout
    exact ⟨r, eq_ok_of_outcome h, Except.ok.inj hout⟩

end Mismatch

/-- A pass whose textures are not what its shader declares compiles. Behind a two-dimensional texture
of floats with one sample, it binds a cube of integers with four; behind an array of `Rgba8Unorm`
textures, one mip of a texture of another format. -/
theorem exists_texture_not_agrees : ∃ r t t',
    Mismatch.pass.compile Mismatch.context = .ok r Mismatch.compiled ∧
    Mismatch.context.Reflects .compute ⟨3⟩ Mismatch.interface ∧
    merge [Mismatch.interface] Mismatch.context.device.limits.maxBindGroups =
      .ok [Mismatch.group] ∧
    .bindGroupLayoutCreated 3 "bind group layout 0"
      [⟨0, Stage.compute.visibility, .texture (.float false) .d2 false⟩,
        ⟨1, Stage.compute.visibility, .storageTexture .writeOnly .rgba16Float .d2Array⟩] ∈
      Mismatch.compiled.device.trace ∧
    .bindGroupCreated 11 "bind group 0" 3
      [⟨0, .view Mismatch.cubeView⟩, ⟨1, .view Mismatch.mipView⟩] ∈
      Mismatch.compiled.device.trace ∧
    Mismatch.compiled.textures.get? ⟨1⟩ = some t ∧
    Mismatch.cubeView.dimension ≠ some .d2 ∧
    (SampleType.float false).kind ≠ t.sampleType.kind ∧
    ¬(false = true ↔ 1 < t.samples) ∧
    Mismatch.compiled.textures.get? ⟨2⟩ = some t' ∧
    Mismatch.mipView.dimension ≠ some .d2Array ∧
    t'.format.info.title ≠ "Rgba8Unorm" := by
  obtain ⟨r, h, -⟩ := Mismatch.compiles
  have hreflects : (Mismatch.context.shaders.get? ⟨3⟩).map
      (fun s => (s.stage, s.code.reflect s.entryPoint)) =
      some (.compute, .ok Mismatch.interface) := by cbv
  have hcompiled : ((Mismatch.compiled.textures.get? ⟨1⟩).map (fun t => (t.sampleType, t.samples)),
      (Mismatch.compiled.textures.get? ⟨2⟩).map Texture.format,
      Mismatch.compiled.device.trace[0]?, Mismatch.compiled.device.trace[8]?) =
      (some (.uint, 4), some .rgba16Float,
        some (.bindGroupLayoutCreated 3 "bind group layout 0"
          [⟨0, Stage.compute.visibility, .texture (.float false) .d2 false⟩,
            ⟨1, Stage.compute.visibility, .storageTexture .writeOnly .rgba16Float .d2Array⟩]),
        some (.bindGroupCreated 11 "bind group 0" 3
          [⟨0, .view Mismatch.cubeView⟩, ⟨1, .view Mismatch.mipView⟩])) := by cbv
  simp only [Prod.mk.injEq] at hcompiled
  obtain ⟨hcube, hother, hlayout, hgroup⟩ := hcompiled
  obtain ⟨s, hs, heq⟩ := Option.map_eq_some_iff.1 hreflects
  obtain ⟨t, ht, hsamples⟩ := Option.map_eq_some_iff.1 hcube
  obtain ⟨t', ht', hformat⟩ := Option.map_eq_some_iff.1 hother
  obtain ⟨hstage, hreflect⟩ := Prod.mk.inj heq
  obtain ⟨htype, hcount⟩ := Prod.mk.inj hsamples
  refine ⟨r, t, t', h, ⟨s, hs, hstage, rfl, hreflect⟩, by cbv, List.mem_of_getElem? hlayout,
    List.mem_of_getElem? hgroup, ht, by decide, ?_, ?_, ht', by decide, ?_⟩
  · rw [htype]
    decide
  · rw [hcount]
    decide
  · rw [hformat]
    decide

/-- The textures of that pass are bound as those of every pass. -/
theorem reconcile_mismatch : ∃ r table layouts,
    Mismatch.pass.compile Mismatch.context = .ok r Mismatch.compiled ∧ r.bindGroups = [11] ∧
    Mismatch.pass.uniforms.uniforms = .ok table ∧
    List.Forall₂ (fun l serial => ∃ entries,
      TexturesBound Mismatch.compiled table l serial entries) layouts r.bindGroups := by
  obtain ⟨r, h, hgroups⟩ := Mismatch.compiles
  obtain ⟨-, -, table, layouts, -, -, htable, -, hbound⟩ :=
    (reconcile_spec Mismatch.reachable).2 _ _ _ h
  exact ⟨r, table, layouts, h, hgroups, htable, hbound⟩

end PassForge
