import PassForge.Proofs.Context.Bound
import PassForge.Proofs.Pass.Steps

/-!
# Plans

A plan is what the part of compiling that can fail yields. Making the pipeline of a plan never fails.

* `BindsUniforms` is the part of such a run that makes layouts and bind groups.
* `RenderPlan.CheckedIn` are the checks of a description, with what they have found out.
* `RenderDesc.prepare_eq_ok_iff`, `ComputeDesc.prepare_eq_ok_iff`: a plan is prepared iff each part of
  the preparation succeeds. `prepare_eq_ok`: it comes with the shaders that it names and with a run that
  binds uniforms.
* `RenderDesc.finish_cases`, `ComputeDesc.finish_cases`: what making the pipeline of a plan does.
* `RenderDesc.compile_eq_error`, `ComputeDesc.compile_eq_error`: if compiling fails, it fails before it
  makes the pipeline. `compile_eq_ok`: if it succeeds, what it has bound is still bound afterwards, and
  `compile_binds` says for which shaders that is.
-/

namespace PassForge

open Context (Touch Retains)
open Relation (ReflTransGen)

variable {c c' c'' : Context} {id : ResourceId}

/-! ## Registered shaders -/

/-- There is a shader under an id. -/
def Context.HasShader (c : Context) (id : ResourceId) : Prop := ∃ s, c.shaders.get? id = some s

namespace Context.HasShader

theorem spared (h : c.HasShader id) (hs : c.Spared c') : c'.HasShader id := by
  obtain ⟨s, hget⟩ := h
  obtain ⟨hnone, -⟩ | ⟨s', s'', -, hget', -⟩ := Store.get?_of_map hs.shaders id
  · exact nomatch hnone.symm.trans hget
  · exact ⟨s'', hget'⟩

theorem touches (h : c.HasShader id) (hc : ReflTransGen Touch c c') : c'.HasShader id :=
  h.spared (spared_of_touches hc)

/-- A shader has a module or gets one; no shader is lost, and what is bound stays. -/
theorem exists_handle (h : c.HasShader id) :
    ∃ serial c', Work.on .shaders id Shader.handle c = .ok serial c' ∧
      (∀ id', c.HasShader id' → c'.HasShader id') ∧ Retains c c' := by
  obtain ⟨s, hs⟩ := h
  obtain ⟨serial, l, hl⟩ := Shader.exists_handle_eq_ok ⟨s, c.device⟩
  have hdevice : c.device.Later l.device ∧ l.device.surface = c.device.surface := by
    obtain rfl | rfl := Shader.handle_eq_ok hl
    · exact ⟨.refl, rfl⟩
    · exact ⟨.createShaderModule _, rfl⟩
  refine ⟨serial, _, on_of_ok hs hl, fun id' ⟨s', hs'⟩ => ?_,
    .of_eq rfl rfl rfl hdevice.1 hdevice.2⟩
  obtain ⟨s'', hs'', -⟩ := Store.exists_get?_update (R := fun _ _ _ => True) hs
    (a := l.object) trivial (fun _ _ _ _ => trivial) hs'
  exact ⟨s'', hs''⟩

end Context.HasShader

/-- There is a shader under an id that was created for a stage and has an interface for it. -/
def Context.Reflects (c : Context) (stage : Stage) (id : ResourceId) (i : ShaderInterface) : Prop :=
  ∃ s, c.shaders.get? id = some s ∧ s.stage = stage ∧ i.stage = stage ∧
    s.code.reflect s.entryPoint = .ok i

/-- Compiling changes nothing about the interface of a shader. -/
theorem Context.Reflects.of_touches {stage : Stage} {i : ShaderInterface}
    (h : c'.Reflects stage id i) (hc : ReflTransGen Touch c c') : c.Reflects stage id i := by
  obtain ⟨s', hs', hstage, hi, hreflect⟩ := h
  obtain ⟨-, hnone⟩ | ⟨s, s'', hs, hs'', heq⟩ :=
    Store.get?_of_map (Context.spared_of_touches hc).shaders id
  · exact nomatch hnone.symm.trans hs'
  · cases hs''.symm.trans hs'
    have hstage' : s'.stage = s.stage :=
      (congrArg Shader.stage heq : s'.bare.stage = s.bare.stage)
    have hcode : s'.code.reflect s'.entryPoint = s.code.reflect s.entryPoint :=
      congrArg (fun s => s.code.reflect s.entryPoint) heq
    exact ⟨s, hs, hstage'.symm.trans hstage, hi, hcode.symm.trans hreflect⟩

namespace Work

theorem stageInterface_reflects {stage : Stage} {i : ShaderInterface} (hc : c.Sound)
    (h : stageInterface stage id c = .ok i c') : c.Reflects stage id i := by
  obtain ⟨s, c₁, hs, h₁⟩ := bind_eq_ok h
  have hfind := lift_eq_ok.1 hs
  cases hget : c.shaders.get? id with
  | none => exact nomatch (find_of_none hget).symm.trans hfind
  | some s' =>
    cases (find_of_some hget).symm.trans hfind
    split at h₁
    · cases h₁
    · next hstage =>
      obtain ⟨i', c₂, hi, h₂⟩ := bind_eq_ok h₁
      split at h₂
      · cases h₂
      · next hi' =>
        cases h₂
        rw [interface_of_some hget, Shader.reflect_eq (hc.shaders id s hget)] at hi
        refine ⟨s, hget, not_not.1 hstage, not_not.1 hi', ?_⟩
        cases hr : s.code.reflect s.entryPoint with
        | error e =>
          rw [hr] at hi
          cases hi
        | ok j =>
          rw [hr] at hi
          cases hi
          rfl

/-- The interface of a shader that serves a stage is there. -/
theorem exists_stageInterface {stage : Stage} {i : ShaderInterface} (hc : c.Sound)
    (h : c.Reflects stage id i) : ∃ c', stageInterface stage id c = .ok i c' := by
  obtain ⟨s, hs, hstage, hi, hreflect⟩ := h
  obtain ⟨c₁, hinterface⟩ : ∃ c₁, interface id c = .ok i c₁ := by
    rw [interface_of_some hs, Shader.reflect_eq (hc.shaders id s hs), hreflect]
    exact ⟨_, rfl⟩
  refine ⟨c₁, (bind_of_ok (lift_eq_ok.2 (find_of_some hs))).trans ?_⟩
  rw [if_neg (not_not.2 hstage)]
  refine (bind_of_ok hinterface).trans ?_
  rw [if_neg (not_not.2 hi)]
  rfl

theorem stageInterface_eq_ok {stage : Stage} {i : ShaderInterface}
    (h : stageInterface stage id c = .ok i c') : c.HasShader id := by
  obtain ⟨s, c₁, hs, -⟩ := bind_eq_ok h
  have hfind := lift_eq_ok.1 hs
  cases hget : c.shaders.get? id with
  | none => exact nomatch (find_of_none hget).symm.trans hfind
  | some s => exact ⟨s, hget⟩

theorem needShader_of_some {stage : Stage} {shader : Option ResourceId} (h : shader = some id) :
    needShader stage shader c = .ok id c := by
  rw [h]
  rfl

theorem needShader_eq_ok {stage : Stage} {shader : Option ResourceId}
    (h : needShader stage shader c = .ok id c') : shader = some id ∧ c' = c := by
  cases shader with
  | none => cases h
  | some id =>
    cases h
    exact ⟨rfl, rfl⟩

/-- A pipeline is always registered. -/
theorem registerPipeline_eq (p : Pipeline) (c : Context) :
    registerPipeline p c =
      .ok c.mint.1 { c.mint.2 with pipelines := c.pipelines.insert c.mint.1 p } := rfl

theorem registerPipeline_textures {p : Pipeline} (h : registerPipeline p c = .ok id c') :
    c'.textures = c.textures := by
  cases h
  rfl

end Work

/-- One context has a pipeline more than another, under the next id of that. -/
def Context.AddsPipeline (c : Context) (id : ResourceId) (c' : Context) : Prop :=
  id = c.mint.1 ∧ c'.nextId = c.nextId + 1 ∧ ∃ p, c'.pipelines = c.pipelines.insert id p

theorem Work.registerPipeline_addsPipeline {p : Pipeline} (h : registerPipeline p c = .ok id c') :
    c.AddsPipeline id c' := by
  cases h
  exact ⟨rfl, rfl, p, rfl⟩

/-- What compiling does before it makes the pipeline does not count. -/
theorem Context.AddsPipeline.of_touches {c₁ : Context} (h : c₁.AddsPipeline id c')
    (hc : ReflTransGen Touch c c₁) : c.AddsPipeline id c' := by
  have hs := Context.spared_of_touches hc
  obtain ⟨hid, hnext, p, hp⟩ := h
  refine ⟨?_, by rw [hnext, hs.nextId], p, by rw [hp, hs.pipelines]⟩
  rw [hid, mint, mint, hs.nextId]

/-! ## Plans -/

/-- A run that makes the layouts of some stages, their pipeline layout and their bind groups. -/
def BindsUniforms (label : Option String) (stages : List ShaderInterface) (table : UniformTable)
    (layouts : List GroupLayout) (layout : Nat) (groups : List Nat) (c c' : Context) : Prop :=
  ∃ c₁ c₂, makeLayouts stages table c = .ok layouts c₁ ∧
    makePipelineLayout label layouts c₁ = .ok layout c₂ ∧
    makeBindGroups table layouts c₂ = .ok groups c'

theorem BindsUniforms.touches {label : Option String} {stages : List ShaderInterface}
    {table : UniformTable} {layouts : List GroupLayout} {layout : Nat} {groups : List Nat}
    (h : BindsUniforms label stages table layouts layout groups c c') : ReflTransGen Touch c c' := by
  obtain ⟨c₁, c₂, h₁, h₂, h₃⟩ := h
  have hlayouts : ReflTransGen Touch c c₁ := (makeLayouts_touches stages).of_eq_ok h₁
  have hlayout : ReflTransGen Touch c₁ c₂ := (makePipelineLayout_touches label layouts).of_eq_ok h₂
  have hgroups : ReflTransGen Touch c₂ c' := (makeBindGroups_touches layouts).of_eq_ok h₃
  exact (hlayouts.trans hlayout).trans hgroups

/-- The checks of the draw, the attachments and the vertex buffers of a description, with what they
have found out for a plan. -/
structure RenderPlan.CheckedIn (p : RenderPlan) (d : RenderDesc) (vertex fragment : ShaderInterface)
    (c : Context) : Prop where
  draw : d.draw.check c.buffers = .ok ()
  targets : colorTargets c d.samples d.colors = .ok p.targets
  outputs : checkOutputs fragment p.targets = .ok ()
  depth : depthState c d.samples d.depth = .ok p.depth
  vertices : ∃ attributes, d.attributes.attributes = .ok attributes ∧
    vertexState vertex.vertexInputs attributes c.buffers = .ok p.vertices

namespace RenderDesc

variable {d : RenderDesc}

/-- A plan is prepared iff each part of the preparation succeeds: the shaders are named and have
interfaces, the layouts are made, the checks succeed, and then the bind groups are made. -/
theorem prepare_eq_ok_iff {p : RenderPlan} : d.prepare c = .ok p c' ↔
    d.uniforms.uniforms = .ok p.uniforms ∧ d.vertexShader = some p.vertexShader ∧
      d.fragmentShader = some p.fragmentShader ∧ ∃ vertex fragment layouts c₁ c₀ c₂ c₃,
        Work.stageInterface .vertex p.vertexShader c = .ok vertex c₁ ∧
        Work.stageInterface .fragment p.fragmentShader c₁ = .ok fragment c₀ ∧
        makeLayouts [vertex, fragment] p.uniforms c₀ = .ok layouts c₂ ∧
        p.CheckedIn d vertex fragment c₂ ∧
        makePipelineLayout d.label layouts c₂ = .ok p.layout c₃ ∧
        makeBindGroups p.uniforms layouts c₃ = .ok p.bindGroups c' := by
  constructor
  · intro h
    obtain ⟨vertexShader, c₁, hvertexShader, h⟩ := bind_eq_ok h
    obtain ⟨fragmentShader, c₂, hfragmentShader, h⟩ := bind_eq_ok h
    obtain ⟨vertex, c₃, hvertex, h⟩ := bind_eq_ok h
    obtain ⟨fragment, c₄, hfragment, h⟩ := bind_eq_ok h
    obtain ⟨attributes, hattributes, h⟩ := liftExcept_bind_eq_ok h
    obtain ⟨uniforms, huniforms, h⟩ := liftExcept_bind_eq_ok h
    obtain ⟨layouts, c₅, hlayouts, h⟩ := bind_eq_ok h
    rw [context_bind] at h
    obtain ⟨⟨⟩, hdraw, h⟩ := liftExcept_bind_eq_ok h
    obtain ⟨targets, htargets, h⟩ := liftExcept_bind_eq_ok h
    obtain ⟨⟨⟩, houtputs, h⟩ := liftExcept_bind_eq_ok h
    obtain ⟨depth, hdepth, h⟩ := liftExcept_bind_eq_ok h
    obtain ⟨layout, c₆, hlayout, h⟩ := bind_eq_ok h
    obtain ⟨vertices, hvertices, h⟩ := liftExcept_bind_eq_ok h
    obtain ⟨groups, c₇, hgroups, h⟩ := bind_eq_ok h
    cases h
    obtain ⟨hv, rfl⟩ := Work.needShader_eq_ok hvertexShader
    obtain ⟨hf, rfl⟩ := Work.needShader_eq_ok hfragmentShader
    refine ⟨huniforms, hv, hf, vertex, fragment, layouts, c₃, c₄, c₅, c₆, hvertex, hfragment, hlayouts,
      ?_, hlayout, hgroups⟩
    exact ⟨hdraw, htargets, houtputs, hdepth, attributes, hattributes, hvertices⟩
  · rintro ⟨huniforms, hv, hf, vertex, fragment, layouts, c₁, c₀, c₂, c₃, hvertex, hfragment, hlayouts,
      hchecked, hlayout, hgroups⟩
    obtain ⟨attributes, hattributes, hvertices⟩ := hchecked.vertices
    have hcheck {α : Type} {r : Except CompileError α} {a : α} {c : Context} (h : r = .ok a) :
        (liftM r : Work CompileError α) c = .ok a c := liftExcept_eq_ok.2 ⟨h, rfl⟩
    refine (bind_of_ok (Work.needShader_of_some hv)).trans ?_
    refine (bind_of_ok (Work.needShader_of_some hf)).trans ?_
    refine (bind_of_ok hvertex).trans ((bind_of_ok hfragment).trans ?_)
    refine (bind_of_ok (hcheck hattributes)).trans ((bind_of_ok (hcheck huniforms)).trans ?_)
    refine (bind_of_ok hlayouts).trans ?_
    rw [context_bind]
    refine (bind_of_ok (hcheck hchecked.draw)).trans ?_
    refine (bind_of_ok (hcheck hchecked.targets)).trans ?_
    refine (bind_of_ok (hcheck hchecked.outputs)).trans ?_
    refine (bind_of_ok (hcheck hchecked.depth)).trans ((bind_of_ok hlayout).trans ?_)
    exact (bind_of_ok (hcheck hvertices)).trans (bind_of_ok hgroups)

/-- A plan names the shaders of the description, and its layouts and bind groups were made for the
interfaces of the two. -/
theorem prepare_eq_ok {p : RenderPlan} (h : d.prepare c = .ok p c') :
    d.uniforms.uniforms = .ok p.uniforms ∧ d.vertexShader = some p.vertexShader ∧
      d.fragmentShader = some p.fragmentShader ∧ ∃ vertex fragment layouts c₁ c₀,
        Work.stageInterface .vertex p.vertexShader c = .ok vertex c₁ ∧
        Work.stageInterface .fragment p.fragmentShader c₁ = .ok fragment c₀ ∧
        BindsUniforms d.label [vertex, fragment] p.uniforms layouts p.layout p.bindGroups c₀ c' := by
  obtain ⟨huniforms, hv, hf, vertex, fragment, layouts, c₁, c₀, c₂, c₃, hvertex, hfragment, hlayouts,
    -, hlayout, hgroups⟩ := prepare_eq_ok_iff.1 h
  exact ⟨huniforms, hv, hf, vertex, fragment, layouts, c₁, c₀, hvertex, hfragment, c₂, c₃, hlayouts,
    hlayout, hgroups⟩

/-- Making the pipeline of a plan never fails; what is bound stays. -/
theorem exists_finish {p : RenderPlan} (hv : c.HasShader p.vertexShader)
    (hf : c.HasShader p.fragmentShader) :
    ∃ r c', d.finish p c = .ok r c' ∧ r.bindGroups = p.bindGroups ∧ Retains c c' := by
  have ⟨vertex, hvertex⟩ := hv
  have ⟨fragment, hfragment⟩ := hf
  obtain ⟨vertexModule, c₁, h₁, hkeep, hc₁⟩ := hv.exists_handle
  obtain ⟨fragmentModule, c₂, h₂, -, hc₂⟩ := (hkeep _ hf).exists_handle
  unfold finish
  rw [bind_of_ok (lift_eq_ok.2 (find_of_some hvertex)),
    bind_of_ok (lift_eq_ok.2 (find_of_some hfragment)), bind_of_ok (lift_eq_ok.2 h₁),
    bind_of_ok (lift_eq_ok.2 h₂), call_bind]
  rw [bind_of_ok (lift_eq_ok.2 (Work.registerPipeline_eq ..))]
  refine ⟨_, _, rfl, rfl, (hc₁.trans hc₂).trans (.of_eq rfl rfl rfl ?_ rfl)⟩
  exact .createRenderPipeline ..

/-- The pass of a plan, with the id and the serial of its pipeline. -/
def pass (d : RenderDesc) (p : RenderPlan) (pipelineId : ResourceId) (pipeline : Nat) :
    RenderPass where
  label := d.label
  pipelineId := pipelineId
  pipeline := pipeline
  vertexBuffers := p.vertices.buffers
  bindGroups := p.bindGroups
  colors := d.colors
  depth := d.depth
  draw := d.draw
  sync := .forPass p.uniforms (p.vertices.buffers ++ d.draw.buffers)

/-- To make the pipeline of a plan, the two shaders are looked up and asked for their modules. Then
the device makes it, and it is registered. -/
theorem finish_cases {p : RenderPlan} {r : RenderPass} (h : d.finish p c = .ok r c') :
    ∃ vertex fragment vertexModule fragmentModule c₁ c₂,
      c.shaders.get? p.vertexShader = some vertex ∧
      c.shaders.get? p.fragmentShader = some fragment ∧
      Work.on .shaders p.vertexShader Shader.handle c = .ok vertexModule c₁ ∧
      Work.on .shaders p.fragmentShader Shader.handle c₁ = .ok fragmentModule c₂ ∧
      Work.registerPipeline (d.pipeline p vertex fragment c₂.device.nextSerial)
        { c₂ with device := (c₂.device.createRenderPipeline p.layout vertexModule fragmentModule
          d.samples.state (d.pipeline p vertex fragment)).2 } = .ok r.pipelineId c' ∧
      r = d.pass p r.pipelineId c₂.device.nextSerial := by
  obtain ⟨vertex, c₁, h₁, h⟩ := bind_eq_ok h
  obtain ⟨fragment, c₂, h₂, h⟩ := bind_eq_ok h
  obtain ⟨vertexModule, c₃, h₃, h⟩ := bind_eq_ok h
  obtain ⟨fragmentModule, c₄, h₄, h⟩ := bind_eq_ok h
  rw [call_bind] at h
  obtain ⟨pipelineId, c₅, h₅, h⟩ := bind_eq_ok h
  cases h
  obtain ⟨hvertex, rfl⟩ := get?_of_find (lift_eq_ok.1 h₁)
  obtain ⟨hfragment, rfl⟩ := get?_of_find (lift_eq_ok.1 h₂)
  exact ⟨vertex, fragment, vertexModule, fragmentModule, c₃, c₄, hvertex, hfragment, lift_eq_ok.1 h₃,
    lift_eq_ok.1 h₄, lift_eq_ok.1 h₅, rfl⟩

/-- A pass is what its plan and its description say, and making its pipeline leaves the textures. -/
theorem finish_eq_ok {p : RenderPlan} {r : RenderPass} (h : d.finish p c = .ok r c') :
    r.vertexBuffers = p.vertices.buffers ∧ r.bindGroups = p.bindGroups ∧ r.draw = d.draw ∧
      r.sync = .forPass p.uniforms (p.vertices.buffers ++ d.draw.buffers) ∧
      c'.textures = c.textures := by
  obtain ⟨vertex, fragment, vertexModule, fragmentModule, c₁, c₂, -, -, h₁, h₂, h₃, hr⟩ :=
    finish_cases h
  obtain ⟨s, l, -, -, rfl⟩ := on_eq_ok h₁
  obtain ⟨s', l', -, -, rfl⟩ := on_eq_ok h₂
  have htextures := Work.registerPipeline_textures h₃
  rw [hr]
  exact ⟨rfl, rfl, rfl, rfl, htextures⟩

theorem finish_addsPipeline {p : RenderPlan} {r : RenderPass} (h : d.finish p c = .ok r c') :
    c.AddsPipeline r.pipelineId c' := by
  obtain ⟨vertex, fragment, vertexModule, fragmentModule, c₁, c₂, -, -, h₁, h₂, h₃, -⟩ :=
    finish_cases h
  obtain ⟨s, l, -, -, rfl⟩ := on_eq_ok h₁
  obtain ⟨s', l', -, -, rfl⟩ := on_eq_ok h₂
  have hadds := Work.registerPipeline_addsPipeline h₃
  exact hadds

/-- Compiling registers one pipeline, under the next id. -/
theorem compile_addsPipeline {r : RenderPass} (h : d.compile c = .ok r c') :
    c.AddsPipeline r.pipelineId c' := by
  obtain ⟨p, c₁, hp, hf⟩ := bind_eq_ok h
  exact (finish_addsPipeline hf).of_touches (d.prepare_touches.of_eq_ok hp)

/-- A plan that was prepared is finished. -/
theorem finishes (p : RenderPlan) (c₁ : Context) (h : d.prepare c = .ok p c₁) :
    ∃ r c₂, d.finish p c₁ = .ok r c₂ ∧ r.bindGroups = p.bindGroups ∧ Retains c₁ c₂ := by
  obtain ⟨-, -, -, vertex, fragment, layouts, c₂, c₃, hv, hf, hbinds⟩ := prepare_eq_ok h
  have hvertex : ReflTransGen Touch c c₂ := (Work.stageInterface_touches _ _).of_eq_ok hv
  have hfragment : ReflTransGen Touch c₂ c₃ := (Work.stageInterface_touches _ _).of_eq_ok hf
  exact exists_finish
    ((Work.stageInterface_eq_ok hv).touches ((hvertex.trans hfragment).trans hbinds.touches))
    ((Work.stageInterface_eq_ok hf).touches (hfragment.trans hbinds.touches))

/-- If compiling fails, it fails before it makes the pipeline. -/
theorem compile_eq_error {e : CompileError} (h : d.compile c = .error e c') :
    d.prepare c = .error e c' := bind_eq_error_of_finishes finishes h

/-- If compiling succeeds, there is a plan, and making its pipeline leaves what it has bound. -/
theorem compile_eq_ok {r : RenderPass} (h : d.compile c = .ok r c') :
    ∃ p c₁, d.prepare c = .ok p c₁ ∧ r.bindGroups = p.bindGroups ∧ Retains c₁ c' :=
  bind_eq_ok_of_finishes finishes h

/-- A compiled pass has bound the uniforms of its description for the interfaces of its shaders, and what
it has bound stays. -/
theorem compile_binds {r : RenderPass} (hc : c.Sound) (h : d.compile c = .ok r c') :
    ∃ vertexShader fragmentShader vertex fragment table layouts layout c₀ c₁,
      d.vertexShader = some vertexShader ∧ d.fragmentShader = some fragmentShader ∧
      c.Reflects .vertex vertexShader vertex ∧ c.Reflects .fragment fragmentShader fragment ∧
      d.uniforms.uniforms = .ok table ∧ ReflTransGen Touch c c₀ ∧
      BindsUniforms d.label [vertex, fragment] table layouts layout r.bindGroups c₀ c₁ ∧
      Retains c₁ c' := by
  obtain ⟨p, c₁, hp, hgroups, hretains⟩ := compile_eq_ok h
  obtain ⟨htable, hvs, hfs, vertex, fragment, layouts, c₂, c₀, hvertex, hfragment, hbinds⟩ :=
    prepare_eq_ok hp
  have ht₁ : ReflTransGen Touch c c₂ := (Work.stageInterface_touches _ _).of_eq_ok hvertex
  have ht₂ : ReflTransGen Touch c₂ c₀ := (Work.stageInterface_touches _ _).of_eq_ok hfragment
  have hreflects := Work.stageInterface_reflects (Context.sound_of_touches ht₁ hc) hfragment
  exact ⟨p.vertexShader, p.fragmentShader, vertex, fragment, p.uniforms, layouts, p.layout, c₀, c₁, hvs,
    hfs, Work.stageInterface_reflects hc hvertex, hreflects.of_touches ht₁, htable, ht₁.trans ht₂,
    hgroups ▸ hbinds, hretains⟩

end RenderDesc

namespace ComputeDesc

variable {d : ComputeDesc}

/-- A plan is prepared iff each part of the preparation succeeds: the shader is named and has an
interface, the layouts are made, the dispatch is accepted, and then the bind groups are made. -/
theorem prepare_eq_ok_iff {p : ComputePlan} : d.prepare c = .ok p c' ↔
    d.uniforms.uniforms = .ok p.uniforms ∧ d.shader = some p.shader ∧ ∃ i layouts c₀ c₁ c₂,
      Work.stageInterface .compute p.shader c = .ok i c₀ ∧
      makeLayouts [i] p.uniforms c₀ = .ok layouts c₁ ∧
      d.dispatch.check c₁.buffers c₁.device.limits = .ok () ∧
      makePipelineLayout d.label layouts c₁ = .ok p.layout c₂ ∧
      makeBindGroups p.uniforms layouts c₂ = .ok p.bindGroups c' := by
  constructor
  · intro h
    obtain ⟨shader, c₁, hshader, h⟩ := bind_eq_ok h
    obtain ⟨i, c₂, hinterface, h⟩ := bind_eq_ok h
    obtain ⟨uniforms, huniforms, h⟩ := liftExcept_bind_eq_ok h
    obtain ⟨layouts, c₃, hlayouts, h⟩ := bind_eq_ok h
    rw [context_bind] at h
    obtain ⟨⟨⟩, hdispatch, h⟩ := liftExcept_bind_eq_ok h
    obtain ⟨layout, c₄, hlayout, h⟩ := bind_eq_ok h
    obtain ⟨groups, c₅, hgroups, h⟩ := bind_eq_ok h
    cases h
    obtain ⟨hs, rfl⟩ := Work.needShader_eq_ok hshader
    exact ⟨huniforms, hs, i, layouts, c₂, c₃, c₄, hinterface, hlayouts, hdispatch, hlayout, hgroups⟩
  · rintro ⟨huniforms, hs, i, layouts, c₀, c₁, c₂, hinterface, hlayouts, hdispatch, hlayout, hgroups⟩
    have hcheck {α : Type} {r : Except CompileError α} {a : α} {c : Context} (h : r = .ok a) :
        (liftM r : Work CompileError α) c = .ok a c := liftExcept_eq_ok.2 ⟨h, rfl⟩
    refine (bind_of_ok (Work.needShader_of_some hs)).trans ?_
    refine (bind_of_ok hinterface).trans ((bind_of_ok (hcheck huniforms)).trans ?_)
    refine (bind_of_ok hlayouts).trans ?_
    rw [context_bind]
    exact (bind_of_ok (hcheck hdispatch)).trans ((bind_of_ok hlayout).trans (bind_of_ok hgroups))

/-- A plan names the shader of the description, and its layouts and bind groups were made for the
interface of it. -/
theorem prepare_eq_ok {p : ComputePlan} (h : d.prepare c = .ok p c') :
    d.uniforms.uniforms = .ok p.uniforms ∧ d.shader = some p.shader ∧ ∃ i layouts c₀,
      Work.stageInterface .compute p.shader c = .ok i c₀ ∧
      BindsUniforms d.label [i] p.uniforms layouts p.layout p.bindGroups c₀ c' := by
  obtain ⟨huniforms, hs, i, layouts, c₀, c₁, c₂, hinterface, hlayouts, -, hlayout, hgroups⟩ :=
    prepare_eq_ok_iff.1 h
  exact ⟨huniforms, hs, i, layouts, c₀, hinterface, c₁, c₂, hlayouts, hlayout, hgroups⟩

/-- Making the pipeline of a plan never fails; what is bound stays. -/
theorem exists_finish {p : ComputePlan} (hs : c.HasShader p.shader) :
    ∃ r c', d.finish p c = .ok r c' ∧ r.bindGroups = p.bindGroups ∧ Retains c c' := by
  have ⟨shader, hshader⟩ := hs
  obtain ⟨shaderModule, c₁, h₁, -, hc₁⟩ := hs.exists_handle
  unfold finish
  rw [bind_of_ok (lift_eq_ok.2 (find_of_some hshader)), bind_of_ok (lift_eq_ok.2 h₁),
    call_bind]
  rw [bind_of_ok (lift_eq_ok.2 (Work.registerPipeline_eq ..))]
  refine ⟨_, _, rfl, rfl, hc₁.trans (.of_eq rfl rfl rfl ?_ rfl)⟩
  exact .createComputePipeline ..

/-- The pass of a plan, with the id and the serial of its pipeline. -/
def pass (d : ComputeDesc) (p : ComputePlan) (pipelineId : ResourceId) (pipeline : Nat) :
    ComputePass where
  label := d.label
  pipelineId := pipelineId
  pipeline := pipeline
  bindGroups := p.bindGroups
  dispatch := d.dispatch
  hook := d.hook
  sync := .forPass p.uniforms d.dispatch.buffers

/-- To make the pipeline of a plan, the shader is looked up and asked for its module. Then the device
makes it, and it is registered. -/
theorem finish_cases {p : ComputePlan} {r : ComputePass} (h : d.finish p c = .ok r c') :
    ∃ shader shaderModule c₁, c.shaders.get? p.shader = some shader ∧
      Work.on .shaders p.shader Shader.handle c = .ok shaderModule c₁ ∧
      Work.registerPipeline (d.pipeline shader c₁.device.nextSerial)
        { c₁ with device := (c₁.device.createComputePipeline p.layout shaderModule
          (d.pipeline shader)).2 } = .ok r.pipelineId c' ∧
      r = d.pass p r.pipelineId c₁.device.nextSerial := by
  obtain ⟨shader, c₁, h₁, h⟩ := bind_eq_ok h
  obtain ⟨shaderModule, c₂, h₂, h⟩ := bind_eq_ok h
  rw [call_bind] at h
  obtain ⟨pipelineId, c₃, h₃, h⟩ := bind_eq_ok h
  cases h
  obtain ⟨hshader, rfl⟩ := get?_of_find (lift_eq_ok.1 h₁)
  exact ⟨shader, shaderModule, c₂, hshader, lift_eq_ok.1 h₂, lift_eq_ok.1 h₃, rfl⟩

/-- A pass is what its plan and its description say, and making its pipeline leaves the textures. -/
theorem finish_eq_ok {p : ComputePlan} {r : ComputePass} (h : d.finish p c = .ok r c') :
    r.bindGroups = p.bindGroups ∧ r.dispatch = d.dispatch ∧ r.hook = d.hook ∧
      r.sync = .forPass p.uniforms d.dispatch.buffers ∧ c'.textures = c.textures := by
  obtain ⟨shader, shaderModule, c₁, -, h₁, h₂, hr⟩ := finish_cases h
  obtain ⟨s, l, -, -, rfl⟩ := on_eq_ok h₁
  have htextures := Work.registerPipeline_textures h₂
  rw [hr]
  exact ⟨rfl, rfl, rfl, rfl, htextures⟩

theorem finish_addsPipeline {p : ComputePlan} {r : ComputePass} (h : d.finish p c = .ok r c') :
    c.AddsPipeline r.pipelineId c' := by
  obtain ⟨shader, shaderModule, c₁, -, h₁, h₂, -⟩ := finish_cases h
  obtain ⟨s, l, -, -, rfl⟩ := on_eq_ok h₁
  have hadds := Work.registerPipeline_addsPipeline h₂
  exact hadds

/-- Compiling registers one pipeline, under the next id. -/
theorem compile_addsPipeline {r : ComputePass} (h : d.compile c = .ok r c') :
    c.AddsPipeline r.pipelineId c' := by
  obtain ⟨p, c₁, hp, hf⟩ := bind_eq_ok h
  exact (finish_addsPipeline hf).of_touches (d.prepare_touches.of_eq_ok hp)

/-- A plan that was prepared is finished. -/
theorem finishes (p : ComputePlan) (c₁ : Context) (h : d.prepare c = .ok p c₁) :
    ∃ r c₂, d.finish p c₁ = .ok r c₂ ∧ r.bindGroups = p.bindGroups ∧ Retains c₁ c₂ := by
  obtain ⟨-, -, i, layouts, c₂, hi, hbinds⟩ := prepare_eq_ok h
  have hinterface : ReflTransGen Touch c c₂ := (Work.stageInterface_touches _ _).of_eq_ok hi
  exact exists_finish ((Work.stageInterface_eq_ok hi).touches (hinterface.trans hbinds.touches))

/-- If compiling fails, it fails before it makes the pipeline. -/
theorem compile_eq_error {e : CompileError} (h : d.compile c = .error e c') :
    d.prepare c = .error e c' := bind_eq_error_of_finishes finishes h

/-- If compiling succeeds, there is a plan, and making its pipeline leaves what it has bound. -/
theorem compile_eq_ok {r : ComputePass} (h : d.compile c = .ok r c') :
    ∃ p c₁, d.prepare c = .ok p c₁ ∧ r.bindGroups = p.bindGroups ∧ Retains c₁ c' :=
  bind_eq_ok_of_finishes finishes h

/-- A compiled pass has bound the uniforms of its description for the interface of its shader, and what
it has bound stays. -/
theorem compile_binds {r : ComputePass} (hc : c.Sound) (h : d.compile c = .ok r c') :
    ∃ shader i table layouts layout c₀ c₁, d.shader = some shader ∧ c.Reflects .compute shader i ∧
      d.uniforms.uniforms = .ok table ∧ ReflTransGen Touch c c₀ ∧
      BindsUniforms d.label [i] table layouts layout r.bindGroups c₀ c₁ ∧ Retains c₁ c' := by
  obtain ⟨p, c₁, hp, hgroups, hretains⟩ := compile_eq_ok h
  obtain ⟨htable, hs, i, layouts, c₀, hi, hbinds⟩ := prepare_eq_ok hp
  have ht : ReflTransGen Touch c c₀ := (Work.stageInterface_touches _ _).of_eq_ok hi
  exact ⟨p.shader, i, p.uniforms, layouts, p.layout, c₀, c₁, hs, Work.stageInterface_reflects hc hi,
    htable, ht, hgroups ▸ hbinds, hretains⟩

end ComputeDesc

end PassForge
