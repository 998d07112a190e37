import Mathlib
import PassForge.Proofs.Pass.Checked
import PassForge.Proofs.Pass.MipChain
import PassForge.Proofs.Pass.Rebinding

/-!
# Compiling again

A description that has been compiled can be compiled again, whatever was done with the context
meanwhile, as long as the surface is the same. All that compiling makes is new then: the layouts, the
bind groups and the pipeline. The rest of the second pass is that of the first, and its bind groups bind
the same, except for views of the surface and for storage views of textures whose cursor has moved.

* `Context.SameViews` says which textures give bindings the same views in two contexts.
* `RenderDesc.prepare_again`, `ComputeDesc.prepare_again`: what was prepared can be prepared again.
* `RenderDesc.Recompiled`, `ComputeDesc.Recompiled` relate the two passes.
* `recompile_spec` is the whole statement.
-/

namespace PassForge

open Context (Install Lasting Step Survey Touch)
open Relation (ReflTransGen)

variable {Same : ResourceId → Bool → Prop} {c c' c₁ c₂ : Context} {id : ResourceId}

/-! ## Views -/

namespace Context

/-- A texture gives bindings the same views in two contexts. For storage access its cursor must be at
the same mip in both and move alike; for sampling it must be no surface. -/
def SameViews (c c' : Context) (id : ResourceId) : Bool → Prop
  | true => ∃ t t', c.textures.get? id = some t ∧ c'.textures.get? id = some t' ∧ t.InStep t'
  | false => ¬c.IsSurface id

theorem aligned (hc : c.Sound) (hc' : c'.Sound) : Aligned (c.SameViews c') c c' where
  left := hc
  right := hc'
  inStep id t t' h ht ht' := by
    obtain ⟨s, s', hs, hs', hstep⟩ := h
    cases hs.symm.trans ht
    cases hs'.symm.trans ht'
    exact hstep
  surface id t h ht hkind := h ⟨t, ht, hkind⟩

/-- No step changes the entry point of a shader. -/
theorem Lasting.entryPoint {s s' : Shader} (hc : Lasting c c') (h : c.shaders.get? id = some s)
    (h' : c'.shaders.get? id = some s') : s'.entryPoint = s.entryPoint := by
  obtain ⟨s'', hs'', hfixed⟩ := hc.fixedShader h
  cases hs''.symm.trans h'
  exact (congrArg Shader.entryPoint hfixed :)

end Context

/-! ## Plans -/

/-- A shader that has served a stage serves it again, with the same interface. -/
theorem repeats_stageInterface (stage : Stage) :
    Repeats Same Eq (Work.stageInterface stage id) (Work.stageInterface stage id) := by
  intro c i c₁ c' halign hrun hprecedes
  have hsurveys : ReflTransGen Survey c c₁ := (Work.stageInterface_surveys stage id).of_eq_ok hrun
  have htouches : ReflTransGen Touch c c₁ := Survey.touches hsurveys
  have hlasting : Lasting c c' := ((Context.precedes_of_touches htouches).trans hprecedes).lasting
  have hreflects := (Work.stageInterface_reflects halign.left hrun).stands hlasting
  obtain ⟨c₁', hrun'⟩ := Work.exists_stageInterface halign.right hreflects
  have hsurveys' : ReflTransGen Survey c' c₁' :=
    (Work.stageInterface_surveys stage id).of_eq_ok hrun'
  exact ⟨i, c₁', hrun', rfl, halign.touch htouches (Survey.touches hsurveys')
    (Context.textures_of_surveys hsurveys) (Context.textures_of_surveys hsurveys')⟩

theorem RenderPlan.CheckedIn.stands {p : RenderPlan} {d : RenderDesc}
    {vertex fragment : ShaderInterface} (h : p.CheckedIn d vertex fragment c) (hc : Lasting c c') :
    p.CheckedIn d vertex fragment c' where
  draw := Draw.check_stands hc h.draw
  targets := colorTargets_stand h.targets hc
  outputs := h.outputs
  depth := depthState_stands h.depth hc
  vertices := by
    obtain ⟨attributes, hattributes, hvertices⟩ := h.vertices
    exact ⟨attributes, hattributes, vertexState_stands hc hvertices⟩

/-- **A plan that was prepared can be prepared again**: the layouts and the bind groups are new ones, and
all else is the same. -/
theorem RenderDesc.prepare_again {d : RenderDesc} {p : RenderPlan} (halign : Aligned Same c c')
    (h : d.prepare c = .ok p c₁) (hprecedes : c₁.Precedes c') :
    ∃ ms layout' serials' ms' c₁',
      d.prepare c' = .ok { p with layout := layout', bindGroups := serials' } c₁' ∧
      UniformsMade c.device.nextSerial d.label p.layout p.bindGroups ms c₁.device ∧
      UniformsMade c'.device.nextSerial d.label layout' serials' ms' c₁'.device ∧
      List.Forall₂ (BoundLayout.Again Same p.uniforms) ms ms' := by
  obtain ⟨huniforms, hv, hf, vertex, fragment, layouts, c₂, c₃, c₄, c₅, hvertex, hfragment, hlayouts,
    hchecked, hlayout, hgroups⟩ := prepare_eq_ok_iff.1 h
  have hbinds : BindsUniforms d.label [vertex, fragment] p.uniforms layouts p.layout p.bindGroups
      c₃ c₁ := ⟨c₄, c₅, hlayouts, hlayout, hgroups⟩
  have ht₂ : ReflTransGen Touch c c₂ := (Work.stageInterface_touches _ _).of_eq_ok hvertex
  have ht₃ : ReflTransGen Touch c₂ c₃ := (Work.stageInterface_touches _ _).of_eq_ok hfragment
  have ht₄ : ReflTransGen Touch c₄ c₁ := ((makePipelineLayout_touches _ _).of_eq_ok hlayout).trans
    ((makeBindGroups_touches _).of_eq_ok hgroups)
  have hp₃ : c₃.Precedes c' := (Context.precedes_of_touches hbinds.touches).trans hprecedes
  have hp₂ : c₂.Precedes c' := (Context.precedes_of_touches ht₃).trans hp₃
  -- the shaders again
  obtain ⟨_, c₂', hvertex', rfl, halign₂⟩ :=
    repeats_stageInterface .vertex c vertex c₂ c' halign hvertex hp₂
  have ht₂' : ReflTransGen Touch c' c₂' := (Work.stageInterface_touches _ _).of_eq_ok hvertex'
  obtain ⟨_, c₃', hfragment', rfl, halign₃⟩ :=
    repeats_stageInterface .fragment c₂ fragment c₃ c₂' halign₂ hfragment
      (hp₃.trans (Context.precedes_of_touches ht₂'))
  have ht₃' : ReflTransGen Touch c₂' c₃' := (Work.stageInterface_touches _ _).of_eq_ok hfragment'
  -- the layouts and the bind groups again, with the checks in between
  have hprecedes' : c₁.Precedes c₃' :=
    hprecedes.trans (Context.precedes_of_touches (ht₂'.trans ht₃'))
  obtain ⟨ms, layouts', layout', serials', ms', c₁', hbinds', hmade, hmade', hagain⟩ :=
    hbinds.again halign₃ hprecedes'
  have ⟨c₄', c₅', hlayouts', hlayout', hgroups'⟩ := hbinds'
  have ht₄' : ReflTransGen Touch c₃' c₄' := (makeLayouts_touches _).of_eq_ok hlayouts'
  have hp₄ : c₄.Precedes c₄' := ((Context.precedes_of_touches ht₄).trans hprecedes').trans
    (Context.precedes_of_touches ht₄')
  have hchecked' : p.CheckedIn d vertex fragment c₄' := hchecked.stands hp₄.lasting
  refine ⟨ms, layout', serials', ms', c₁', prepare_eq_ok_iff.2 ?_, ?_, ?_, hagain⟩
  · exact ⟨huniforms, hv, hf, vertex, fragment, layouts', c₂', c₃', c₄', c₅', hvertex', hfragment',
      hlayouts', { hchecked' with }, hlayout', hgroups'⟩
  · exact hmade.later (Context.nextSerial_le (ht₂.trans ht₃)) .refl
  · exact hmade'.later (Context.nextSerial_le (ht₂'.trans ht₃')) .refl

/-- **A plan that was prepared can be prepared again**: the layouts and the bind groups are new ones, and
all else is the same. -/
theorem ComputeDesc.prepare_again {d : ComputeDesc} {p : ComputePlan} (halign : Aligned Same c c')
    (h : d.prepare c = .ok p c₁) (hprecedes : c₁.Precedes c') :
    ∃ ms layout' serials' ms' c₁',
      d.prepare c' = .ok { p with layout := layout', bindGroups := serials' } c₁' ∧
      UniformsMade c.device.nextSerial d.label p.layout p.bindGroups ms c₁.device ∧
      UniformsMade c'.device.nextSerial d.label layout' serials' ms' c₁'.device ∧
      List.Forall₂ (BoundLayout.Again Same p.uniforms) ms ms' := by
  obtain ⟨huniforms, hs, i, layouts, c₂, c₃, c₄, hi, hlayouts, hdispatch, hlayout, hgroups⟩ :=
    prepare_eq_ok_iff.1 h
  have hbinds : BindsUniforms d.label [i] p.uniforms layouts p.layout p.bindGroups c₂ c₁ :=
    ⟨c₃, c₄, hlayouts, hlayout, hgroups⟩
  have ht₂ : ReflTransGen Touch c c₂ := (Work.stageInterface_touches _ _).of_eq_ok hi
  have ht₃ : ReflTransGen Touch c₃ c₁ := ((makePipelineLayout_touches _ _).of_eq_ok hlayout).trans
    ((makeBindGroups_touches _).of_eq_ok hgroups)
  have hp₂ : c₂.Precedes c' := (Context.precedes_of_touches hbinds.touches).trans hprecedes
  -- the shader again
  obtain ⟨_, c₂', hi', rfl, halign₂⟩ := repeats_stageInterface .compute c i c₂ c' halign hi hp₂
  have ht₂' : ReflTransGen Touch c' c₂' := (Work.stageInterface_touches _ _).of_eq_ok hi'
  -- the layouts and the bind groups again, with the check in between
  have hprecedes' : c₁.Precedes c₂' := hprecedes.trans (Context.precedes_of_touches ht₂')
  obtain ⟨ms, layouts', layout', serials', ms', c₁', hbinds', hmade, hmade', hagain⟩ :=
    hbinds.again halign₂ hprecedes'
  have ⟨c₃', c₄', hlayouts', hlayout', hgroups'⟩ := hbinds'
  have ht₃' : ReflTransGen Touch c₂' c₃' := (makeLayouts_touches _).of_eq_ok hlayouts'
  have hp₃ : c₃.Precedes c₃' := ((Context.precedes_of_touches ht₃).trans hprecedes').trans
    (Context.precedes_of_touches ht₃')
  have hdispatch' : d.dispatch.check c₃'.buffers c₃'.device.limits = .ok () := by
    rw [hp₃.limits]
    exact Dispatch.check_stands hp₃.lasting hdispatch
  refine ⟨ms, layout', serials', ms', c₁', prepare_eq_ok_iff.2 ?_, ?_, ?_, hagain⟩
  · exact ⟨huniforms, hs, i, layouts', c₂', c₃', c₄', hi', hlayouts', hdispatch', hlayout', hgroups'⟩
  · exact hmade.later (Context.nextSerial_le ht₂) .refl
  · exact hmade'.later (Context.nextSerial_le ht₂') .refl

/-! ## Passes -/

/-- How a render pass that was compiled again, from `c'` to `c₁'`, is related to the first, which was
compiled from `c` to `c₁`. `ms` and `ms'` are the layouts and bind groups of the two. -/
structure RenderDesc.Recompiled (d : RenderDesc) (table : UniformTable) (c c₁ : Context)
    (r : RenderPass) (ms : List BoundLayout) (c' c₁' : Context) (r' : RenderPass)
    (ms' : List BoundLayout) : Prop where
  /-- The passes differ in their pipeline and their bind groups only. -/
  pass : r' = { r with
    pipelineId := r'.pipelineId
    pipeline := r'.pipeline
    bindGroups := r'.bindGroups }
  /-- The second pipeline is a new one. -/
  fresh : r'.pipelineId ∉ c'.ids .pipelines ∧ c'.device.nextSerial ≤ r'.pipeline
  /-- Both pipelines are made of the same modules and differ in their serials only, and they have new
  layouts. -/
  pipeline : ∃ pipeline layout layout' vertexModule fragmentModule,
    c₁.pipelines.get? r.pipelineId = some pipeline ∧ pipeline.serial = r.pipeline ∧
    c₁'.pipelines.get? r'.pipelineId = some { pipeline with serial := r'.pipeline } ∧
    .renderPipelineCreated layout vertexModule fragmentModule d.samples.state pipeline ∈
      c₁.device.trace ∧
    .renderPipelineCreated layout' vertexModule fragmentModule d.samples.state
      { pipeline with serial := r'.pipeline } ∈ c₁'.device.trace ∧
    UniformsMade c.device.nextSerial d.label layout r.bindGroups ms c₁.device ∧
    UniformsMade c'.device.nextSerial d.label layout' r'.bindGroups ms' c₁'.device
  /-- The layouts have the same entries, and the bind groups bind the same. -/
  again : List.Forall₂ (BoundLayout.Again (c.SameViews c') table) ms ms'

/-- How a compute pass that was compiled again, from `c'` to `c₁'`, is related to the first, which was
compiled from `c` to `c₁`. `ms` and `ms'` are the layouts and bind groups of the two. -/
structure ComputeDesc.Recompiled (d : ComputeDesc) (table : UniformTable) (c c₁ : Context)
    (r : ComputePass) (ms : List BoundLayout) (c' c₁' : Context) (r' : ComputePass)
    (ms' : List BoundLayout) : Prop where
  /-- The passes differ in their pipeline and their bind groups only. -/
  pass : r' = { r with
    pipelineId := r'.pipelineId
    pipeline := r'.pipeline
    bindGroups := r'.bindGroups }
  /-- The second pipeline is a new one. -/
  fresh : r'.pipelineId ∉ c'.ids .pipelines ∧ c'.device.nextSerial ≤ r'.pipeline
  /-- Both pipelines are made of the same module and differ in their serials only, and they have new
  layouts. -/
  pipeline : ∃ pipeline layout layout' shaderModule,
    c₁.pipelines.get? r.pipelineId = some pipeline ∧ pipeline.serial = r.pipeline ∧
    c₁'.pipelines.get? r'.pipelineId = some { pipeline with serial := r'.pipeline } ∧
    .computePipelineCreated layout shaderModule pipeline ∈ c₁.device.trace ∧
    .computePipelineCreated layout' shaderModule { pipeline with serial := r'.pipeline } ∈
      c₁'.device.trace ∧
    UniformsMade c.device.nextSerial d.label layout r.bindGroups ms c₁.device ∧
    UniformsMade c'.device.nextSerial d.label layout' r'.bindGroups ms' c₁'.device
  /-- The layouts have the same entries, and the bind groups bind the same. -/
  again : List.Forall₂ (BoundLayout.Again (c.SameViews c') table) ms ms'

/-- The pipeline that compiling registers was not there before. -/
theorem Context.AddsPipeline.fresh (h : c.AddsPipeline id c') (hc : c.Reachable) :
    id ∉ c.ids .pipelines := by
  obtain ⟨rfl, -, -⟩ := h
  exact Store.not_mem_ids_iff.2 (Context.get?_mint hc.pipelines_lt)

theorem Context.later_of_installs (h : ReflTransGen Install c c') : c.device.Later c'.device :=
  later_of_steps (ReflTransGen.mono (fun _ _ => Install.step) _ _ h)

/-- What was left when a pass had been prepared precedes whatever comes after the pass was compiled, if
the surface is the same. -/
theorem Context.precedes_of_prepared {c₀ : Context} (hc : c.Reachable)
    (hprepare : ReflTransGen Touch c c₀) (hfinish : ReflTransGen Install c₀ c₁)
    (hsteps : ReflTransGen Step c₁ c₂) (hs : c₂.device.surface = c.device.surface) :
    c₀.Precedes c₂ := by
  have hc₀ : c₀.Reachable := hc.steps (ReflTransGen.mono (fun _ _ => .touch) _ _ hprepare)
  have hinstalls : ReflTransGen Step c₀ c₁ := ReflTransGen.mono (fun _ _ => Install.step) _ _ hfinish
  have hsurface : c₀.device.surface = c.device.surface := (spared_of_touches hprepare).device.surface
  exact precedes_of_steps hc₀ (hinstalls.trans hsteps) (hs.trans hsurface.symm)

theorem RenderDesc.compile_again {d : RenderDesc} {r : RenderPass} (hc : c.Reachable)
    (h : d.compile c = .ok r c₁) (hsteps : ReflTransGen Step c₁ c₂)
    (hs : c₂.device.surface = c.device.surface) :
    ∃ table ms r' c₃ ms', d.uniforms.uniforms = .ok table ∧ d.compile c₂ = .ok r' c₃ ∧
      d.Recompiled table c c₁ r ms c₂ c₃ r' ms' := by
  have hc₁ : c₁.Reachable := hc.steps (d.compile_runs.of_eq_ok h)
  have hc₂ : c₂.Reachable := hc₁.steps hsteps
  obtain ⟨p, c₀, hprepare, hfinish⟩ := bind_eq_ok h
  have hprecedes : c₀.Precedes c₂ := Context.precedes_of_prepared hc
    (d.prepare_touches.of_eq_ok hprepare) ((d.finish_installs p).of_eq_ok hfinish) hsteps hs
  obtain ⟨ms, layout', serials', ms', c₀', hprepare', hmade, hmade', hagain⟩ :=
    prepare_again (Context.aligned hc.sound hc₂.sound) hprepare hprecedes
  obtain ⟨r', c₃, hfinish', -, -⟩ := finishes _ c₀' hprepare'
  have hcompile' : d.compile c₂ = .ok r' c₃ := (bind_of_ok hprepare').trans hfinish'
  obtain ⟨-, vertex, fragment, vertexModule, fragmentModule, hvertex, hfragment, hr⟩ :=
    finish_registers hfinish
  obtain ⟨hle', vertex', fragment', vertexModule', fragmentModule', hvertex', hfragment', hr'⟩ :=
    finish_registers hfinish'
  -- the shaders have the entry points and the modules that they had
  have htouches' : ReflTransGen Touch c₂ c₀' := d.prepare_touches.of_eq_ok hprepare'
  have hstands : Lasting c₀ c₀' :=
    (hprecedes.trans (Context.precedes_of_touches htouches')).lasting
  have hlasting : Lasting c₁ c₃ := Context.lasting_of_steps hc₁
    (hsteps.trans (d.compile_runs.of_eq_ok hcompile'))
  obtain rfl := (hr.hasVertexModule.lasting hlasting).eq hr'.hasVertexModule
  obtain rfl := (hr.hasFragmentModule.lasting hlasting).eq hr'.hasFragmentModule
  have hpipeline : d.pipeline { p with layout := layout', bindGroups := serials' } vertex' fragment'
      r'.pipeline = { d.pipeline p vertex fragment r.pipeline with serial := r'.pipeline } := by
    simp only [pipeline, hstands.entryPoint hvertex hvertex', hstands.entryPoint hfragment hfragment']
  have hgroups : r.bindGroups = p.bindGroups := congrArg RenderPass.bindGroups hr.pass
  have hgroups' : r'.bindGroups = serials' := congrArg RenderPass.bindGroups hr'.pass
  have hlater : c₀.device.Later c₁.device := Context.later_of_installs
    ((d.finish_installs p).of_eq_ok hfinish)
  have hlater' : c₀'.device.Later c₃.device := Context.later_of_installs
    ((d.finish_installs _).of_eq_ok hfinish')
  refine ⟨p.uniforms, ms, r', c₃, ms', (prepare_eq_ok hprepare).1, hcompile', ?_⟩
  exact
    { pass := by
        rw [hgroups']
        refine hr'.pass.trans ?_
        rw [hr.pass]
        rfl
      fresh := ⟨(compile_addsPipeline hcompile').fresh hc₂,
        Nat.le_trans (Context.nextSerial_le htouches') hle'⟩
      pipeline := ⟨_, _, _, _, _, hr.registered, rfl, hpipeline ▸ hr'.registered, hr.made,
        hpipeline ▸ hr'.made, hgroups ▸ hmade.later (Nat.le_refl _) hlater,
        hgroups' ▸ hmade'.later (Nat.le_refl _) hlater'⟩
      again := hagain }

theorem ComputeDesc.compile_again {d : ComputeDesc} {r : ComputePass} (hc : c.Reachable)
    (h : d.compile c = .ok r c₁) (hsteps : ReflTransGen Step c₁ c₂)
    (hs : c₂.device.surface = c.device.surface) :
    ∃ table ms r' c₃ ms', d.uniforms.uniforms = .ok table ∧ d.compile c₂ = .ok r' c₃ ∧
      d.Recompiled table c c₁ r ms c₂ c₃ r' ms' := by
  have hc₁ : c₁.Reachable := hc.steps (d.compile_runs.of_eq_ok h)
  have hc₂ : c₂.Reachable := hc₁.steps hsteps
  obtain ⟨p, c₀, hprepare, hfinish⟩ := bind_eq_ok h
  have hprecedes : c₀.Precedes c₂ := Context.precedes_of_prepared hc
    (d.prepare_touches.of_eq_ok hprepare) ((d.finish_installs p).of_eq_ok hfinish) hsteps hs
  obtain ⟨ms, layout', serials', ms', c₀', hprepare', hmade, hmade', hagain⟩ :=
    prepare_again (Context.aligned hc.sound hc₂.sound) hprepare hprecedes
  obtain ⟨r', c₃, hfinish', -, -⟩ := finishes _ c₀' hprepare'
  have hcompile' : d.compile c₂ = .ok r' c₃ := (bind_of_ok hprepare').trans hfinish'
  obtain ⟨-, shader, shaderModule, hshader, hr⟩ := finish_registers hfinish
  obtain ⟨hle', shader', shaderModule', hshader', hr'⟩ := finish_registers hfinish'
  -- the shader has the entry point and the module that it had
  have htouches' : ReflTransGen Touch c₂ c₀' := d.prepare_touches.of_eq_ok hprepare'
  have hstands : Lasting c₀ c₀' :=
    (hprecedes.trans (Context.precedes_of_touches htouches')).lasting
  have hlasting : Lasting c₁ c₃ := Context.lasting_of_steps hc₁
    (hsteps.trans (d.compile_runs.of_eq_ok hcompile'))
  obtain rfl := (hr.hasModule.lasting hlasting).eq hr'.hasModule
  have hpipeline : d.pipeline shader' r'.pipeline =
      { d.pipeline shader r.pipeline with serial := r'.pipeline } := by
    simp only [pipeline, hstands.entryPoint hshader hshader']
  have hgroups : r.bindGroups = p.bindGroups := congrArg ComputePass.bindGroups hr.pass
  have hgroups' : r'.bindGroups = serials' := congrArg ComputePass.bindGroups hr'.pass
  have hlater : c₀.device.Later c₁.device := Context.later_of_installs
    ((d.finish_installs p).of_eq_ok hfinish)
  have hlater' : c₀'.device.Later c₃.device := Context.later_of_installs
    ((d.finish_installs _).of_eq_ok hfinish')
  refine ⟨p.uniforms, ms, r', c₃, ms', (prepare_eq_ok hprepare).1, hcompile', ?_⟩
  exact
    { pass := by
        rw [hgroups']
        refine hr'.pass.trans ?_
        rw [hr.pass]
        rfl
      fresh := ⟨(compile_addsPipeline hcompile').fresh hc₂,
        Nat.le_trans (Context.nextSerial_le htouches') hle'⟩
      pipeline := ⟨_, _, _, _, hr.registered, rfl, hpipeline ▸ hr'.registered, hr.made,
        hpipeline ▸ hr'.made, hgroups ▸ hmade.later (Nat.le_refl _) hlater,
        hgroups' ▸ hmade'.later (Nat.le_refl _) hlater'⟩
      again := hagain }

/-- **Compiling is repeatable.** A description that has been compiled is compiled again, whatever was
done with the context in between, as long as the surface is the same. The second pass differs from the
first in its pipeline and its bind groups only. Its pipeline is the same but for its serial, its layouts
have the same entries, and its bind groups bind the same buffers with the same ranges, the same samplers,
the same views for sampling of textures off the surface, and the same storage views of textures whose
cursors are at the same mip before both runs and move alike. -/
theorem recompile_spec (hc : c.Reachable) (hsteps : ReflTransGen Step c₁ c₂)
    (hs : c₂.device.surface = c.device.surface) :
    (∀ (d : RenderDesc) (r : RenderPass), d.compile c = .ok r c₁ →
      ∃ table ms r' c₃ ms', d.uniforms.uniforms = .ok table ∧ d.compile c₂ = .ok r' c₃ ∧
        d.Recompiled table c c₁ r ms c₂ c₃ r' ms') ∧
    ∀ (d : ComputeDesc) (r : ComputePass), d.compile c = .ok r c₁ →
      ∃ table ms r' c₃ ms', d.uniforms.uniforms = .ok table ∧ d.compile c₂ = .ok r' c₃ ∧
        d.Recompiled table c c₁ r ms c₂ c₃ r' ms' :=
  ⟨fun _ _ h => RenderDesc.compile_again hc h hsteps hs,
    fun _ _ h => ComputeDesc.compile_again hc h hsteps hs⟩

namespace Reduction

/-- Puts the cursor of the texture back to its last mip, where it is before the pass is compiled. -/
def rewind : Work ResourceError Unit :=
  Work.on .textures ⟨1⟩ (Action.change fun t => t.pointCursor 2)

theorem rewind_runs : Runs Step rewind := Work.on_texture_runs (Texture.pointCursor_runs 2)

/-- Where the cursor of the texture is, and whether it moves. -/
def cursor (c : Context) : Option (Nat × Bool) :=
  (c.textures.get? ⟨1⟩).map fun t => (t.cursor, t.autoAdvance)

theorem sameViews_of_cursor {p : Nat × Bool} (h : cursor c = some p) (h' : cursor c' = some p) :
    c.SameViews c' ⟨1⟩ true := by
  obtain ⟨t, ht, hp⟩ := Option.map_eq_some_iff.1 h
  obtain ⟨t', ht', hp'⟩ := Option.map_eq_some_iff.1 h'
  obtain ⟨hcursor, hadvance⟩ := Prod.mk.inj (hp'.trans hp.symm)
  exact ⟨t, t', ht, ht', hcursor, hadvance⟩

end Reduction

/-- With its cursor put back, the texture is bound again with the storage views of before. -/
theorem recompile_reduction : ∃ r c₁ table ms r' c₃ ms',
    Reduction.pass.compile Reduction.context = .ok r c₁ ∧
    Reduction.context.SameViews (after Reduction.rewind c₁) ⟨1⟩ true ∧
    Reduction.pass.uniforms.uniforms = .ok table ∧
    Reduction.pass.compile (after Reduction.rewind c₁) = .ok r' c₃ ∧
    Reduction.pass.Recompiled table Reduction.context c₁ r ms (after Reduction.rewind c₁) c₃ r'
      ms' := by
  have hout : (outcome Reduction.pass.compile Reduction.context).map ComputePass.bindGroups =
      .ok [9] := by cbv
  have hcursor : Reduction.cursor Reduction.context = some (2, true) := by cbv
  have hcursor' : Reduction.cursor (after Reduction.rewind
      (after Reduction.pass.compile Reduction.context)) = some (2, true) := by cbv
  have hsurface : (after Reduction.rewind
      (after Reduction.pass.compile Reduction.context)).device.surface =
        Reduction.context.device.surface := by cbv
  cases h : Reduction.pass.compile Reduction.context with
  | error e c₁ =>
    rw [outcome_error h] at hout
    cases hout
  | ok r c₁ =>
    rw [after_ok h] at hcursor' hsurface
    obtain ⟨table, ms, r', c₃, ms', htable, hagain, hrecompiled⟩ :=
      (recompile_spec Reduction.reachable (Reduction.rewind_runs c₁) hsurface).2 _ r h
    exact ⟨r, c₁, table, ms, r', c₃, ms', rfl, Reduction.sameViews_of_cursor hcursor hcursor', htable,
      hagain, hrecompiled⟩

end PassForge
