import PassForge.Proofs.Context.Durable
import PassForge.Proofs.Pass.Plan

/-!
# What a plan was checked against

Preparing a pass checks its description against the resources of the context, between making the
layouts and making the bind groups. Nothing that compiling does in between is undone later, so what
was found then still holds when the pass is compiled.

* `RenderDesc.compile_checked`, `ComputeDesc.compile_checked`: a pass was compiled from a checked plan,
  and what it was checked against lasts.
* `RenderDesc.finish_registers`, `ComputeDesc.finish_registers`: the pipeline of a pass is the one that
  its plan asks for, made of the modules that the shaders have.
-/

namespace PassForge

open Context (Install Lasting Step Touch)
open Relation (ReflTransGen)

variable {c c' : Context} {id : ResourceId}

/-- What was there while a plan was prepared is still there when its pipeline is made. -/
theorem Context.lasting_of_prepared {c₀ c₁ : Context} (hc : c.Reachable) (hbefore : ReflTransGen Touch c c₀)
    (hafter : ReflTransGen Touch c₀ c₁) (hfinish : ReflTransGen Install c₁ c') : Lasting c₀ c' := by
  have hsteps {c c' : Context} : ReflTransGen Touch c c' → ReflTransGen Step c c' :=
    ReflTransGen.mono (fun _ _ => .touch) _ _
  have hinstalls : ReflTransGen Step c₁ c' := ReflTransGen.mono (fun _ _ => Install.step) _ _ hfinish
  exact Context.lasting_of_steps (hc.steps (hsteps hbefore)) ((hsteps hafter).trans hinstalls)

/-- A shader that is asked for its module has it afterwards. -/
theorem Work.shaderHandle_eq_ok {serial : Nat}
    (h : Work.on .shaders id Shader.handle c = .ok serial c') :
    c'.HasModule id serial ∧ Lasting c c' ∧ c.device.nextSerial ≤ c'.device.nextSerial := by
  have hinstalls : ReflTransGen Install c c' := Work.shaderHandle_installs.of_eq_ok h
  have hsteps : ReflTransGen Step c c' := ReflTransGen.mono (fun _ _ => Install.step) _ _ hinstalls
  obtain ⟨s, l, hs, hl, rfl⟩ := on_eq_ok h
  replace hs : c.shaders.get? id = some s := hs
  have hbecomes : Becomes Shader.Step s l.object := .of_steps (Shader.handle_runs.of_eq_ok hl)
  refine ⟨⟨l.object, ?_, Shader.handle_device hl⟩, .put .shaders hs hbecomes, ?_⟩
  · exact @Shelf.get?_put _ .shaders _ c id s l hs
  · exact (Context.renews_of_steps hsteps).nextSerial

namespace RenderDesc

variable {d : RenderDesc} {p : RenderPlan}

/-- A pass was compiled from a plan that was checked on the way. -/
theorem compile_checked {r : RenderPass} (hc : c.Reachable) (h : d.compile c = .ok r c') :
    ∃ p c₁ vertex fragment c₀, d.prepare c = .ok p c₁ ∧ d.finish p c₁ = .ok r c' ∧
      p.CheckedIn d vertex fragment c₀ ∧ Lasting c₀ c' := by
  obtain ⟨p, c₁, hp, hf⟩ := bind_eq_ok h
  obtain ⟨-, -, -, vertex, fragment, layouts, c₂, c₃, c₀, c₄, hvertex, hfragment, hlayouts, hchecked,
    hlayout, hgroups⟩ := prepare_eq_ok_iff.1 hp
  have hbefore := (((Work.stageInterface_touches _ _).of_eq_ok hvertex).trans
    ((Work.stageInterface_touches _ _).of_eq_ok hfragment)).trans
      ((makeLayouts_touches _).of_eq_ok hlayouts)
  have hafter := ((makePipelineLayout_touches _ _).of_eq_ok hlayout).trans
    ((makeBindGroups_touches _).of_eq_ok hgroups)
  refine ⟨p, c₁, vertex, fragment, c₀, hp, hf, hchecked, ?_⟩
  exact Context.lasting_of_prepared hc hbefore hafter ((d.finish_installs p).of_eq_ok hf)

/-- What making the pipeline of a plan has done: the pass is the one that the plan is for, and its
pipeline was made of the modules of two shaders and is registered. -/
structure Registers (d : RenderDesc) (p : RenderPlan) (vertex fragment : Shader)
    (vertexModule fragmentModule : Nat) (r : RenderPass) (c : Context) : Prop where
  pass : r = d.pass p r.pipelineId r.pipeline
  hasVertexModule : c.HasModule p.vertexShader vertexModule
  hasFragmentModule : c.HasModule p.fragmentShader fragmentModule
  registered : c.pipelines.get? r.pipelineId = some (d.pipeline p vertex fragment r.pipeline)
  made : .renderPipelineCreated p.layout vertexModule fragmentModule d.samples.state
    (d.pipeline p vertex fragment r.pipeline) ∈ c.device.trace

/-- Making the pipeline of a plan makes it on the device, under a new serial, and registers it. -/
theorem finish_registers {r : RenderPass} (h : d.finish p c = .ok r c') :
    c.device.nextSerial ≤ r.pipeline ∧ ∃ vertex fragment vertexModule fragmentModule,
      c.shaders.get? p.vertexShader = some vertex ∧
      c.shaders.get? p.fragmentShader = some fragment ∧
      d.Registers p vertex fragment vertexModule fragmentModule r c' := by
  obtain ⟨vertex, fragment, vertexModule, fragmentModule, c₁, c₂, hvertex, hfragment, h₁, h₂, h₃,
    hr⟩ := finish_cases h
  obtain ⟨hvertexModule, -, hle₁⟩ := Work.shaderHandle_eq_ok h₁
  obtain ⟨hfragmentModule, hlasting, hle₂⟩ := Work.shaderHandle_eq_ok h₂
  have hvertexModule := hvertexModule.lasting hlasting
  have hserial : r.pipeline = c₂.device.nextSerial := congrArg RenderPass.pipeline hr
  rw [Work.registerPipeline_eq] at h₃
  injection h₃ with hid hc'
  subst hc'
  refine ⟨hserial ▸ Nat.le_trans hle₁ hle₂, vertex, fragment, vertexModule, fragmentModule, hvertex,
    hfragment, ?_⟩
  refine ⟨hserial ▸ hr, hvertexModule, hfragmentModule, ?_, ?_⟩
  · rw [hserial, ← hid]
    exact Store.get?_insert.trans (if_pos rfl)
  · rw [hserial]
    exact List.mem_append_right _ (List.mem_singleton_self _)

end RenderDesc

namespace ComputeDesc

variable {d : ComputeDesc} {p : ComputePlan}

/-- A pass was compiled from a plan whose dispatch was checked on the way. -/
theorem compile_checked {r : ComputePass} (hc : c.Reachable) (h : d.compile c = .ok r c') :
    ∃ p c₁ c₀, d.prepare c = .ok p c₁ ∧ d.finish p c₁ = .ok r c' ∧
      d.dispatch.check c₀.buffers c₀.device.limits = .ok () ∧ Lasting c₀ c' := by
  obtain ⟨p, c₁, hp, hf⟩ := bind_eq_ok h
  obtain ⟨-, -, i, layouts, c₂, c₀, c₃, hi, hlayouts, hdispatch, hlayout, hgroups⟩ :=
    prepare_eq_ok_iff.1 hp
  have hbefore := ((Work.stageInterface_touches _ _).of_eq_ok hi).trans
    ((makeLayouts_touches _).of_eq_ok hlayouts)
  have hafter := ((makePipelineLayout_touches _ _).of_eq_ok hlayout).trans
    ((makeBindGroups_touches _).of_eq_ok hgroups)
  refine ⟨p, c₁, c₀, hp, hf, hdispatch, ?_⟩
  exact Context.lasting_of_prepared hc hbefore hafter ((d.finish_installs p).of_eq_ok hf)

/-- What making the pipeline of a plan has done: the pass is the one that the plan is for, and its
pipeline was made of the module of a shader and is registered. -/
structure Registers (d : ComputeDesc) (p : ComputePlan) (shader : Shader) (shaderModule : Nat)
    (r : ComputePass) (c : Context) : Prop where
  pass : r = d.pass p r.pipelineId r.pipeline
  hasModule : c.HasModule p.shader shaderModule
  registered : c.pipelines.get? r.pipelineId = some (d.pipeline shader r.pipeline)
  made : .computePipelineCreated p.layout shaderModule (d.pipeline shader r.pipeline) ∈
    c.device.trace

/-- Making the pipeline of a plan makes it on the device, under a new serial, and registers it. -/
theorem finish_registers {r : ComputePass} (h : d.finish p c = .ok r c') :
    c.device.nextSerial ≤ r.pipeline ∧ ∃ shader shaderModule,
      c.shaders.get? p.shader = some shader ∧ d.Registers p shader shaderModule r c' := by
  obtain ⟨shader, shaderModule, c₁, hshader, h₁, h₂, hr⟩ := finish_cases h
  obtain ⟨hmodule, -, hle⟩ := Work.shaderHandle_eq_ok h₁
  have hserial : r.pipeline = c₁.device.nextSerial := congrArg ComputePass.pipeline hr
  rw [Work.registerPipeline_eq] at h₂
  injection h₂ with hid hc'
  subst hc'
  refine ⟨hserial ▸ hle, shader, shaderModule, hshader, hserial ▸ hr, hmodule, ?_, ?_⟩
  · rw [hserial, ← hid]
    exact Store.get?_insert.trans (if_pos rfl)
  · rw [hserial]
    exact List.mem_append_right _ (List.mem_singleton_self _)

end ComputeDesc

end PassForge
