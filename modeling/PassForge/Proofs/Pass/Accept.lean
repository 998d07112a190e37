import Mathlib
import PassForge.Proofs.Binding.Service
import PassForge.Proofs.Binding.Single
import PassForge.Proofs.Pass.Packing

/-!
# When a compute pass compiles

Compiling a compute pass goes through the bindings of its shader twice, once for the layouts and once
for the bind groups, and each part of it can fail. `ComputeDesc.Accepted` says what a description must
be like, without any of these parts.

* `exists_bindsUniforms_iff`: when layouts and bind groups are made, for any stages.
* `ComputeDesc.exists_compile_iff`: a pass compiles exactly if its description is accepted.
* `accept_spec` is the whole statement, with what compiling registers.
-/

namespace PassForge

open Context (Touch Install)
open Relation (ReflTransGen)

variable {c c' : Context}

/-! ## Bindings -/

/-- A bag of uniforms is accepted if it holds neither a vertex nor an index buffer. -/
theorem Bag.uniforms_eq_ok_iff {bag : Bag} {table : UniformTable} :
    bag.uniforms = .ok table ↔ table = ⟨bag⟩ ∧
      ∀ e ∈ bag.entries, e.2.role ≠ .vertexBuffer ∧ e.2.role ≠ .indexBuffer := by
  have hbindable (r : Role) : r.isBindable ↔ r ≠ .vertexBuffer ∧ r ≠ .indexBuffer := by
    cases r <;> decide
  simp only [← hbindable]
  unfold Bag.uniforms
  cases hf : bag.entries.find? fun e => !e.2.role.isBindable with
  | none =>
    have hall := List.find?_eq_none.1 hf
    refine ⟨fun h => ⟨(Except.ok.inj h).symm, fun e he => by simpa using hall e he⟩, ?_⟩
    rintro ⟨rfl, -⟩
    rfl
  | some e =>
    have he := List.find?_some hf
    refine iff_of_false (fun h => (nomatch h)) fun h => ?_
    simp [h.2 e (List.mem_of_find?_eq_some hf)] at he

/-- **When layouts and bind groups are made for some stages**: their bindings can be merged, each of them
is supplied, and in each group the shared buffers are large enough. -/
theorem exists_bindsUniforms_iff {label : Option String} {stages : List ShaderInterface}
    {table : UniformTable} (hc : c.Orderly) :
    (∃ layouts layout groups c', BindsUniforms label stages table layouts layout groups c c') ↔
      Mergeable stages c.device.limits.maxBindGroups ∧
      (∀ i ∈ stages, ∀ b ∈ i.bindings, c.Supplies table b.name b.kind) ∧
      ∀ gs, merge stages c.device.limits.maxBindGroups = .ok gs → ∀ g ∈ gs, c.Packs table g := by
  -- what the bind groups need can be asked for before the layouts are made
  have hgroups {layouts : List GroupLayout} {layout : Nat} {c₁ c₂ : Context}
      (h₁ : makeLayouts stages table c = .ok layouts c₁)
      (h₂ : makePipelineLayout label layouts c₁ = .ok layout c₂) :
      (∃ groups c', makeBindGroups table layouts c₂ = .ok groups c') ↔
        ∀ g ∈ layouts.map GroupLayout.group,
          (∀ b ∈ g.bindings, c.Supplies table b.name b.kind) ∧ c.Packs table g := by
    have ht := ((makeLayouts_touches stages).of_eq_ok h₁).trans
      ((makePipelineLayout_touches label layouts).of_eq_ok h₂)
    have htwin := Twin.of_touches hc.sound ht
    obtain ⟨-, hmade⟩ := makeLayouts_made h₁
    rw [exists_makeBindGroups_iff (hc.touches ht) fun l hl =>
      (hmade l hl).entries.length_eq.symm, List.forall_mem_map]
    exact forall₂_congr fun l _ =>
      ⟨fun h => ⟨fun b hb => htwin.symm.supplies (h.1 b hb), htwin.symm.packs h.2⟩,
        fun h => ⟨fun b hb => htwin.supplies (h.1 b hb), htwin.packs h.2⟩⟩
  constructor
  · rintro ⟨layouts, layout, groups, c', c₁, c₂, h₁, h₂, h₃⟩
    obtain ⟨hmerge, -⟩ := makeLayouts_made h₁
    have hall := (hgroups h₁ h₂).1 ⟨groups, c', h₃⟩
    refine ⟨mergeable_of_merge hmerge, ?_, fun gs hgs g hg => ?_⟩
    · exact (forall_merged_iff (P := c.Supplies table) (merges_of_merge hmerge)).1 fun g hg =>
        (hall g hg).1
    · cases hmerge.symm.trans hgs
      exact (hall g hg).2
  · rintro ⟨hmergeable, hsupplies, hpacks⟩
    obtain ⟨gs, hgs⟩ := hmergeable.exists_merge
    have hmerged := (forall_merged_iff (P := c.Supplies table) (merges_of_merge hgs)).2 hsupplies
    obtain ⟨layouts, c₁, h₁⟩ := exists_makeLayouts hc hgs hmerged
    obtain ⟨hmerge, -⟩ := makeLayouts_made h₁
    cases hgs.symm.trans hmerge
    obtain ⟨layout, c₂, h₂⟩ : ∃ layout c₂, makePipelineLayout label layouts c₁ = .ok layout c₂ :=
      ⟨_, _, rfl⟩
    obtain ⟨groups, c', h₃⟩ := (hgroups h₁ h₂).2 fun g hg => ⟨hmerged g hg, hpacks _ hgs g hg⟩
    exact ⟨layouts, layout, groups, c', c₁, c₂, h₁, h₂, h₃⟩

/-! ## Compiling -/

namespace ComputeDesc

variable {d : ComputeDesc}

/-- What a description must be like so that its pass compiles: its shader was created for compute
passes and has a compute entry point with an interface; nothing in its bag is a vertex or an index
buffer; the bindings of the interface can be merged; each of them is supplied; its dispatch is accepted;
and in each group the ranges of each shared buffer fit the buffer. -/
structure Accepted (d : ComputeDesc) (c : Context) (shader : ResourceId) (i : ShaderInterface) :
    Prop where
  named : d.shader = some shader
  reflects : c.Reflects .compute shader i
  bindable : ∀ e ∈ d.uniforms.entries, e.2.role ≠ .vertexBuffer ∧ e.2.role ≠ .indexBuffer
  mergeable : Mergeable [i] c.device.limits.maxBindGroups
  supplies : ∀ b ∈ i.bindings, c.Supplies ⟨d.uniforms⟩ b.name b.kind
  dispatch : d.dispatch.check c.buffers c.device.limits = .ok ()
  packs : ∀ gs, merge [i] c.device.limits.maxBindGroups = .ok gs →
    ∀ g ∈ gs, c.Packs ⟨d.uniforms⟩ g

/-- Preparing a pass succeeds iff each of its parts does. The check of the dispatch does not depend on
the layouts that are made before it. -/
theorem exists_prepare_iff (hc : c.Sound) : (∃ p c', d.prepare c = .ok p c') ↔
    ∃ shader i c₁ table, d.shader = some shader ∧
      Work.stageInterface .compute shader c = .ok i c₁ ∧ d.uniforms.uniforms = .ok table ∧
      d.dispatch.check c.buffers c.device.limits = .ok () ∧
      ∃ layouts layout groups c', BindsUniforms d.label [i] table layouts layout groups c₁ c' := by
  have hcheck {shader : ResourceId} {i : ShaderInterface} {table : UniformTable}
      {layouts : List GroupLayout} {c₁ c₂ : Context}
      (h₁ : Work.stageInterface .compute shader c = .ok i c₁)
      (h₂ : makeLayouts [i] table c₁ = .ok layouts c₂) :
      d.dispatch.check c₂.buffers c₂.device.limits = d.dispatch.check c.buffers c.device.limits :=
    (Twin.of_touches hc (((Work.stageInterface_touches _ _).of_eq_ok h₁).trans
      ((makeLayouts_touches _).of_eq_ok h₂))).dispatch d.dispatch
  constructor
  · rintro ⟨p, c', h⟩
    obtain ⟨htable, hs, i, layouts, c₁, c₂, c₃, hi, hlayouts, hdispatch, hlayout, hgroups⟩ :=
      prepare_eq_ok_iff.1 h
    rw [hcheck hi hlayouts] at hdispatch
    exact ⟨p.shader, i, c₁, p.uniforms, hs, hi, htable, hdispatch, layouts, p.layout, p.bindGroups, c',
      c₂, c₃, hlayouts, hlayout, hgroups⟩
  · rintro ⟨shader, i, c₁, table, hs, hi, htable, hdispatch, layouts, layout, groups, c₄, c₂, c₃,
      hlayouts, hlayout, hgroups⟩
    rw [← hcheck hi hlayouts] at hdispatch
    exact ⟨⟨shader, table, layout, groups⟩, c₄, prepare_eq_ok_iff.2 ⟨htable, hs, i, layouts, c₁, c₂, c₃,
      hi, hlayouts, hdispatch, hlayout, hgroups⟩⟩

/-- **A compute pass compiles exactly if its description is accepted.** -/
theorem exists_compile_iff (hc : c.Orderly) :
    (∃ r c', d.compile c = .ok r c') ↔ ∃ shader i, d.Accepted c shader i := by
  have hprepare : (∃ r c', d.compile c = .ok r c') ↔ ∃ p c', d.prepare c = .ok p c' := by
    unfold compile
    rw [exists_bind_eq_ok_iff]
    refine exists_congr fun p => exists_congr fun c₁ => and_iff_left_of_imp fun h => ?_
    obtain ⟨r, c₂, hr, -⟩ := finishes p c₁ h
    exact ⟨r, c₂, hr⟩
  rw [hprepare, exists_prepare_iff hc.sound]
  constructor
  · rintro ⟨shader, i, c₁, table, hs, hi, htable, hdispatch, hbinds⟩
    obtain ⟨rfl, hbindable⟩ := Bag.uniforms_eq_ok_iff.1 htable
    have ht := (Work.stageInterface_touches _ _).of_eq_ok hi
    have htwin := Twin.of_touches hc.sound ht
    obtain ⟨hmergeable, hsupplies, hpacks⟩ := (exists_bindsUniforms_iff (hc.touches ht)).1 hbinds
    rw [htwin.limits] at hmergeable hpacks
    exact ⟨shader, i, {
      named := hs
      reflects := Work.stageInterface_reflects hc.sound hi
      bindable := hbindable
      mergeable := hmergeable
      supplies := fun b hb => htwin.symm.supplies (hsupplies i (List.mem_singleton_self i) b hb)
      dispatch := hdispatch
      packs := fun gs hgs g hg => htwin.symm.packs (hpacks gs hgs g hg) }⟩
  · rintro ⟨shader, i, h⟩
    obtain ⟨c₁, hi⟩ := Work.exists_stageInterface hc.sound h.reflects
    have ht := (Work.stageInterface_touches _ _).of_eq_ok hi
    have htwin := Twin.of_touches hc.sound ht
    refine ⟨shader, i, c₁, ⟨d.uniforms⟩, h.named, hi, Bag.uniforms_eq_ok_iff.2 ⟨rfl, h.bindable⟩,
      h.dispatch, (exists_bindsUniforms_iff (hc.touches ht)).2 ?_⟩
    rw [htwin.limits]
    refine ⟨h.mergeable, fun j hj b hb => ?_, fun gs hgs g hg => htwin.packs (h.packs gs hgs g hg)⟩
    rw [List.mem_singleton.1 hj] at hb
    exact htwin.supplies (h.supplies b hb)

/-! ## Registering -/

end ComputeDesc

/-- Making a pipeline registers nothing but a pipeline. -/
theorem Context.Install.ids (h : Install c c') {r : Registry} (hr : r ≠ .pipelines) :
    c'.ids r = c.ids r := by
  cases h with
  | shader => exact ids_put .shaders r
  | renderPipeline | computePipeline => exact ids_device _ r
  | registerPipeline p => cases r <;> first | rfl | contradiction

theorem Context.ids_of_installs (h : ReflTransGen Install c c') {r : Registry} (hr : r ≠ .pipelines) :
    c'.ids r = c.ids r := by
  induction h with
  | refl => rfl
  | tail _ h ih => exact (h.ids hr).trans ih

namespace ComputeDesc

variable {d : ComputeDesc}

/-- Compiling registers one pipeline under an id that was not there, and nothing else. -/
theorem compile_registers {r : ComputePass} (hc : c.Reachable) (h : d.compile c = .ok r c') :
    c.AddsPipeline r.pipelineId c' ∧ r.pipelineId ∉ c.ids .pipelines ∧
      ∀ registry ≠ .pipelines, c'.ids registry = c.ids registry := by
  have hadds := compile_addsPipeline h
  refine ⟨hadds, fun hmem => ?_, fun registry hr => ?_⟩
  · have hlt := hc.pipelines_lt _ hmem
    rw [hadds.1] at hlt
    exact Nat.lt_irrefl _ hlt
  · obtain ⟨p, c₁, hp, hf⟩ := bind_eq_ok h
    have hspared := Context.spared_of_touches (d.prepare_touches.of_eq_ok hp)
    exact (Context.ids_of_installs ((d.finish_installs p).of_eq_ok hf) hr).trans
      (hspared.ids registry)

/-- Compiling that fails registers nothing. -/
theorem compile_error_ids {e : CompileError} (h : d.compile c = .error e c') (registry : Registry) :
    c'.ids registry = c.ids registry := by
  have ht : ReflTransGen Touch c c' := d.prepare_touches.of_eq_error (compile_eq_error h)
  exact (Context.spared_of_touches ht).ids registry

end ComputeDesc

/-- **When a compute pass compiles, and what that registers.** On a device whose limits for sizes are
64-bit numbers, compiling succeeds exactly if the description is accepted. It then registers one pipeline
under a new id and nothing else; if it fails, it registers nothing. The bindings of a module whose
globals have kept their names and have different ones can be merged exactly if they use fewer groups
than the device allows, none beyond its limit, and no two names share a slot. -/
theorem accept_spec (hc : c.Reachable)
    (hl : ∀ k : BufferKind, k.sizeLimit c.device.limits ≤ UInt64.size) (d : ComputeDesc) :
    ((∃ r c', d.compile c = .ok r c') ↔ ∃ shader i, d.Accepted c shader i) ∧
    (∀ (r : ComputePass) (c' : Context), d.compile c = .ok r c' →
      c.AddsPipeline r.pipelineId c' ∧ r.pipelineId ∉ c.ids .pipelines ∧
        ∀ registry ≠ .pipelines, c'.ids registry = c.ids registry) ∧
    (∀ (e : CompileError) (c' : Context), d.compile c = .error e c' →
      ∀ registry, c'.ids registry = c.ids registry) ∧
    ∀ (m : ShaderModule) (entryPoint : String) (i : ShaderInterface) (limit : Nat),
      m.named = true → (m.globals.map Global.name).Nodup → m.reflect entryPoint = .ok i →
      (Mergeable [i] limit ↔ i.Groupable limit) :=
  ⟨d.exists_compile_iff ⟨hc.sound, hc.checked, hl⟩, fun _ _ h => d.compile_registers hc h,
    fun _ _ h => d.compile_error_ids h, fun _ _ _ _ hm hn h =>
      mergeable_singleton_iff (ShaderModule.nodup_names_of_reflect hm hn h)⟩

namespace SharedBuffer

/-- A compute shader that uses two storage buffers of 16 bytes and a texture in one group. -/
def code : ShaderModule where
  globals := [
    { name := "before", space := .storage false, type := .array (.scalar ⟨.uint, 4⟩) (some 4),
      slot := some ⟨0, 0⟩ },
    { name := "after", space := .storage true, type := .array (.scalar ⟨.uint, 4⟩) (some 4),
      slot := some ⟨0, 1⟩ },
    { name := "image", space := .handle, type := .image .d2 (.sampled .float false),
      slot := some ⟨0, 2⟩ }]
  entryPoints := [
    { name := "main", stage := .pipeline .compute, uses := ["before", "after", "image"] }]

/-- Creates a buffer, the texture of the surface and the shader. -/
def setup : Work ResourceError Unit := do
  let _ ← Work.createBuffer .storage { size := 512 }
  let _ ← Work.createSurfaceTexture none
  let _ ← Work.createShader .compute { code := code, entryPoint := "main" }

/-- The context with these resources. -/
def context : Context := PassForge.after setup (.start {})

theorem reachable : context.Reachable := by
  refine Context.Reachable.runs ⟨.start {}, .refl⟩ ?_
  exact (Work.createBuffer_runs _ _).bind fun _ => (Work.createSurfaceTexture_runs _).bind fun _ =>
    (Work.createShader_runs _ _).bind fun _ => runs_pure ()

theorem limits (k : BufferKind) : k.sizeLimit context.device.limits ≤ UInt64.size := by
  have hlimits : context.device.limits = {} := by cbv
  exact k.sizeLimit_le_of_default hlimits

/-- A pass that binds the buffer twice: its ranges end at 16 and at 272. -/
def pass : ComputeDesc where
  shader := some ⟨3⟩
  uniforms := .ofList [("before", ⟨⟨1⟩, .storageBuffer⟩), ("after", ⟨⟨1⟩, .storageBuffer⟩),
    ("image", ⟨⟨2⟩, .textureSurface⟩)]
  dispatch := .workgroups 1 1 1

end SharedBuffer

/-- A pass whose group shares a buffer compiles under the next id, so that its description is
accepted. -/
theorem accept_sharedBuffer :
    ∃ r c', SharedBuffer.pass.compile SharedBuffer.context = .ok r c' ∧ r.pipelineId = ⟨4⟩ ∧
      SharedBuffer.context.AddsPipeline ⟨4⟩ c' ∧
      ∃ shader i, SharedBuffer.pass.Accepted SharedBuffer.context shader i := by
  have hspec := accept_spec SharedBuffer.reachable SharedBuffer.limits SharedBuffer.pass
  have hout : (outcome SharedBuffer.pass.compile SharedBuffer.context).map ComputePass.pipelineId =
      .ok ⟨4⟩ := by cbv
  cases h : SharedBuffer.pass.compile SharedBuffer.context with
  | error e c' =>
    rw [outcome_error h] at hout
    cases hout
  | ok r c' =>
    rw [outcome_ok h] at hout
    have hid : r.pipelineId = ⟨4⟩ := Except.ok.inj hout
    exact ⟨r, c', rfl, hid, hid ▸ (hspec.2.1 r c' h).1, hspec.1.1 ⟨r, c', h⟩⟩

end PassForge
