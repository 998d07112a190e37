import PassForge.Pass.Compute
import PassForge.Pass.Render
import PassForge.Proofs.Context.Refresh

/-!
# Passes take steps

Compiling and recording a pass takes steps of `Context.Step`, whether it succeeds or fails.

* `Work.stageInterface_surveys`, `makeLayouts_surveys`: up to its layouts, compiling takes no steps but
  those of `Context.Survey`.
* `RenderDesc.prepare_touches`, `ComputeDesc.prepare_touches`: the part of compiling that can fail
  takes no steps but those of `Context.Touch`.
* `SyncPlan.run_refreshes`: a synchronisation takes steps of `Context.Refresh`.
* `RenderPass.parts_arranges`, `ComputePass.commands_arranges`: what a pass is encoded with is made
  ready in steps of `Context.Arrange`.
* `RenderDesc.compile_within`, `RenderPass.build_within` and the like for compute passes: so compiling
  and recording take steps of every relation that has those, if the hook of a compute pass does.
-/

namespace PassForge

open Context (Survey Touch Install Step touches_of_surveys)
open Relation (ReflTransGen)

variable {α : Type} {id : ResourceId}

/-! ## Stages -/

namespace Work

section Interface

variable {c : Context} {s : Shader}

theorem interface_of_none (h : c.shaders.get? id = none) :
    interface id c = .error (.resource (.unknownResource c.shaders.kind id)) c := by
  unfold interface
  refine bind_of_error ?_
  rw [lift_apply, find_of_none h]
  rfl

theorem interface_of_some (h : c.shaders.get? id = some s) :
    interface id c = match s.reflect with
      | .ok (i, s') => .ok i (Shelf.shaders.put id ⟨s', c.device⟩ c)
      | .error e => .error (.reflect e) c := by
  unfold interface
  rw [bind_of_ok (lift_eq_ok.2 (find_of_some h))]
  cases s.reflect <;> rfl

theorem interface_surveys (id : ResourceId) : Runs Survey (interface id) := fun c => by
  unfold RunsFrom after
  cases h : c.shaders.get? id with
  | none =>
    rw [interface_of_none h]
  | some s =>
    rw [interface_of_some h]
    cases hr : s.reflect with
    | error e => exact .refl
    | ok r =>
      obtain ⟨i, s'⟩ := r
      show ReflTransGen Survey c (Shelf.shaders.put id ⟨s', c.device⟩ c)
      obtain heq | ⟨hi, heq⟩ := Shader.reflect_eq_ok hr
      · rw [heq, Shelf.put_self h]
      · rw [heq]
        exact .single (.shader h (.reflect hi))

theorem interface_touches (id : ResourceId) : Runs Touch (interface id) :=
  touches_of_surveys (interface_surveys id)

end Interface

theorem needShader_touches (stage : Stage) (shader : Option ResourceId) :
    Runs Touch (needShader stage shader) := by
  cases shader with
  | none => exact runs_throw _
  | some id => exact runs_pure id

theorem stageInterface_surveys (stage : Stage) (id : ResourceId) :
    Runs Survey (stageInterface stage id) := by
  unfold stageInterface
  refine runs_find.lift.bind fun shader c => .check fun _ => ?_
  exact (interface_surveys id c).bind fun i c _ => .check fun _ => runs_pure i c

theorem stageInterface_touches (stage : Stage) (id : ResourceId) :
    Runs Touch (stageInterface stage id) := touches_of_surveys (stageInterface_surveys stage id)

end Work

/-! ## Bindings -/

variable {table : UniformTable}

theorem makeLayout_surveys (g : MergedGroup) : Runs Survey (makeLayout table g) :=
  runs_context.bind fun _ => runs_liftExcept.bind fun entries =>
    Runs.bind (fun _ => .single (.layout _ entries)) fun _ => runs_pure _

theorem makeLayout_touches (g : MergedGroup) : Runs Touch (makeLayout table g) :=
  touches_of_surveys (makeLayout_surveys g)

theorem makeLayouts_surveys (stages : List ShaderInterface) :
    Runs Survey (makeLayouts stages table) :=
  runs_context.bind fun _ => runs_liftExcept.bind fun groups => .mapM makeLayout_surveys groups

theorem makeLayouts_touches (stages : List ShaderInterface) :
    Runs Touch (makeLayouts stages table) := touches_of_surveys (makeLayouts_surveys stages)

theorem makePipelineLayout_surveys (label : Option String) (layouts : List GroupLayout) :
    Runs Survey (makePipelineLayout label layouts) := fun _ => .single (.pipelineLayout label _)

theorem makePipelineLayout_touches (label : Option String) (layouts : List GroupLayout) :
    Runs Touch (makePipelineLayout label layouts) :=
  touches_of_surveys (makePipelineLayout_surveys label layouts)

theorem bindBuffer_touches (g : MergedGroup) (b : MergedBinding) (buffer : Buffer) (cuts : Cuts) :
    Runs Touch (bindBuffer table g b buffer cuts) := by
  unfold bindBuffer
  refine (Work.on_buffer_touches Buffer.handle_uses).lift.bind fun serial => ?_
  split
  · exact runs_pure _
  · exact runs_context.bind fun _ => runs_liftExcept.bind fun _ => runs_pure _

theorem bindTexture_touches (b : MergedBinding) (t : Texture) : Runs Touch (bindTexture b t) := by
  have hview := (@Work.on_texture_touches _ t.id _ Texture.view_uses).lift
  unfold bindTexture
  split
  · exact (Work.on_texture_touches Texture.useAsStorage_uses).lift.bind fun _ =>
      hview.bind fun _ => runs_pure _
  · exact (Work.on_texture_touches Texture.useAsSampled_uses).lift.bind fun _ =>
      hview.bind fun _ => runs_pure _

theorem bindResource_touches (g : MergedGroup) (b : MergedBinding) (cuts : Cuts) :
    Runs Touch (bindResource table g b cuts) := by
  refine runs_context.bind fun c => runs_liftExcept.bind fun r => ?_
  cases r with
  | buffer buffer => exact bindBuffer_touches g b buffer cuts
  | texture t => exact (bindTexture_touches b t).bind fun _ => runs_pure _
  | sampler s =>
    exact (Work.on_sampler_touches Sampler.handle_runs).lift.bind fun _ => runs_pure _

theorem bindAll_touches (g : MergedGroup) (bs : List MergedBinding) (cuts : Cuts) :
    Runs Touch (bindAll table g bs cuts) := by
  induction bs generalizing cuts with
  | nil => exact runs_pure []
  | cons b bs ih =>
    exact (bindResource_touches g b cuts).bind fun r => (ih r.2).bind fun _ => runs_pure _

theorem makeBindGroup_touches (l : GroupLayout) : Runs Touch (makeBindGroup table l) :=
  (bindAll_touches l.group l.group.bindings .empty).bind fun entries _ =>
    .check fun _ => .single (.group _ _ entries)

theorem makeBindGroups_touches (layouts : List GroupLayout) :
    Runs Touch (makeBindGroups table layouts) := .mapM makeBindGroup_touches layouts

/-! ## Compiling -/

namespace RenderDesc

variable (d : RenderDesc) {R : Context → Context → Prop}

theorem prepare_touches : Runs Touch d.prepare :=
  (Work.needShader_touches _ _).bind fun _ => (Work.needShader_touches _ _).bind fun _ =>
    (Work.stageInterface_touches _ _).bind fun _ =>
    (Work.stageInterface_touches _ _).bind fun _ => runs_liftExcept.bind fun _ =>
    runs_liftExcept.bind fun _ => (makeLayouts_touches _).bind fun layouts =>
    runs_context.bind fun _ => runs_liftExcept.bind fun _ => runs_liftExcept.bind fun _ =>
    runs_liftExcept.bind fun _ => runs_liftExcept.bind fun _ =>
    (makePipelineLayout_touches _ layouts).bind fun _ => runs_liftExcept.bind fun _ =>
    (makeBindGroups_touches layouts).bind fun _ => runs_pure _

theorem finish_installs (p : RenderPlan) : Runs Install (d.finish p) :=
  runs_find.lift.bind fun _ => runs_find.lift.bind fun _ =>
    Work.shaderHandle_installs.lift.bind fun _ => Work.shaderHandle_installs.lift.bind fun _ =>
    Runs.bind (fun _ => .single (.renderPipeline ..)) fun pipeline =>
    (Work.registerPipeline_installs pipeline).lift.bind fun _ => runs_pure _

/-- Compiling a render pass takes steps of every relation that has those of its two parts. -/
theorem compile_within (touch : ∀ c c', Touch c c' → R c c')
    (install : ∀ c c', Install c c' → R c c') : Runs R d.compile :=
  Runs.bind (fun c => (d.prepare_touches c).mono touch) fun p c =>
    (d.finish_installs p c).mono install

theorem compile_runs : Runs Step d.compile :=
  d.compile_within (fun _ _ => .touch) fun _ _ => Install.step

end RenderDesc

namespace ComputeDesc

variable (d : ComputeDesc) {R : Context → Context → Prop}

theorem prepare_touches : Runs Touch d.prepare :=
  (Work.needShader_touches _ _).bind fun _ => (Work.stageInterface_touches _ _).bind fun _ =>
    runs_liftExcept.bind fun _ => (makeLayouts_touches _).bind fun layouts =>
    runs_context.bind fun _ => runs_liftExcept.bind fun _ =>
    (makePipelineLayout_touches _ layouts).bind fun _ =>
    (makeBindGroups_touches layouts).bind fun _ => runs_pure _

theorem finish_installs (p : ComputePlan) : Runs Install (d.finish p) :=
  runs_find.lift.bind fun _ => Work.shaderHandle_installs.lift.bind fun _ =>
    Runs.bind (fun _ => .single (.computePipeline ..)) fun pipeline =>
    (Work.registerPipeline_installs pipeline).lift.bind fun _ => runs_pure _

/-- Compiling a compute pass takes steps of every relation that has those of its two parts. -/
theorem compile_within (touch : ∀ c c', Touch c c' → R c c')
    (install : ∀ c c', Install c c' → R c c') : Runs R d.compile :=
  Runs.bind (fun c => (d.prepare_touches c).mono touch) fun p c =>
    (d.finish_installs p c).mono install

theorem compile_runs : Runs Step d.compile :=
  d.compile_within (fun _ _ => .touch) fun _ _ => Install.step

end ComputeDesc

/-! ## Recording -/

open Context (Refresh Arrange)

theorem SyncPlan.run_refreshes (s : SyncPlan) (p : SyncPoint) : Runs (Refresh p) (s.run p) := by
  have hbuffers (ids : List ResourceId) :
      Runs (Refresh p) (ids.forM fun id => Work.on .buffers id (Buffer.acquire p)) :=
    .forM (fun _ => Work.on_buffer_refreshes (Buffer.acquire_refreshes p)) ids
  exact (hbuffers s.uniformBuffers).bind fun _ => (Runs.forM
    (fun _ => Work.on_texture_refreshes (Texture.acquire_refreshes p)) s.uniformTextures).bind
      fun _ => hbuffers s.otherBuffers

theorem Work.targetView_eq (texture : ResourceId) (layer : Nat) :
    Work.targetView texture layer = Work.on .textures texture (Texture.attachView layer) := on_bind

theorem Work.targetView_arranges (texture : ResourceId) (layer : Nat) :
    Runs Arrange (Work.targetView texture layer) :=
  Work.targetView_eq texture layer ▸ Work.on_texture_arranges (Texture.attachView_attaches layer)

theorem Work.colorPass_arranges (id : ResourceId) : Runs Arrange (Work.colorPass id) := by
  refine runs_find.bind fun a => (Work.targetView_arranges _ _).bind fun _ => ?_
  cases a.resolve with
  | none => exact (runs_pure _).bind fun _ => runs_pure _
  | some target => exact ((Work.targetView_arranges target 0).map _).bind fun _ => runs_pure _

theorem Work.depthPass_arranges (id : ResourceId) : Runs Arrange (Work.depthPass id) :=
  runs_find.bind fun _ => (Work.targetView_arranges _ _).bind fun _ =>
    runs_find.bind fun _ => runs_pure _

theorem Draw.commands_arranges (d : Draw) : Runs Arrange d.commands := by
  cases d with
  | vertices count instances => exact runs_pure _
  | indexed id instances =>
    exact Work.bufferHandle_arranges.bind fun _ => runs_find.bind fun _ => runs_pure _
  | indirect id =>
    exact (runs_pure []).bind fun _ =>
      ((Work.bufferHandle_arranges.map _).seq (runs_pure 0)).bind fun _ => runs_pure _
  | indexedIndirect _ id =>
    exact Work.bufferHandle_arranges.bind fun _ =>
      ((Work.bufferHandle_arranges.map _).seq (runs_pure 0)).bind fun _ => runs_pure _
  | multiIndirect id count => exact Work.bufferHandle_arranges.bind fun _ => runs_pure _
  | multiIndexedIndirect _ id count =>
    exact Work.bufferHandle_arranges.bind fun _ =>
      Work.bufferHandle_arranges.bind fun _ => runs_pure _

theorem Dispatch.command_arranges (d : Dispatch) : Runs Arrange d.command := by
  cases d with
  | workgroups x y z => exact runs_pure _
  | indirect id offset => exact Work.bufferHandle_arranges.bind fun _ => runs_pure _

theorem RenderPass.commands_arranges (r : RenderPass) : Runs Arrange r.commands :=
  (Runs.mapM (fun _ => Work.bufferHandle_arranges) r.vertexBuffers).bind fun _ =>
    r.draw.commands_arranges.bind fun _ => runs_pure _

/-- What a render pass is encoded with: its attachments and its commands. -/
def RenderPass.parts (r : RenderPass) :
    Work ResourceError (List ColorPass × Option DepthPass × List RenderCommand) := do
  let colors ← r.colors.mapM Work.colorPass
  let depth ← r.depth.mapM Work.depthPass
  return (colors, depth, ← r.commands)

theorem RenderPass.encode_eq (r : RenderPass) :
    r.encode = r.parts >>= fun p => Work.log (.renderPass r.label p.1 p.2.1 p.2.2) := by
  simp only [RenderPass.encode, RenderPass.parts, bind_assoc, pure_bind]

theorem RenderPass.depth_arranges (r : RenderPass) : Runs Arrange (r.depth.mapM Work.depthPass) := by
  cases r.depth with
  | none => exact runs_pure none
  | some id => exact (Work.depthPass_arranges id).map some

theorem RenderPass.parts_arranges (r : RenderPass) : Runs Arrange r.parts :=
  (Runs.mapM Work.colorPass_arranges r.colors).bind fun _ => r.depth_arranges.bind fun _ =>
    r.commands_arranges.bind fun _ => runs_pure _

section Within

variable {R : Context → Context → Prop} (refresh : ∀ p c c', Refresh p c c' → R c c')
  (arrange : ∀ c c', Arrange c c' → R c c')
  (encode : ∀ (c : Context) (e : Event), e.isEncoded → R c { c with device := c.device.log e })

include refresh in
theorem SyncPlan.run_within (s : SyncPlan) (p : SyncPoint) : Runs R (s.run p) := fun c =>
  (s.run_refreshes p c).mono (refresh p)

include arrange encode in
theorem RenderPass.encode_within (r : RenderPass) : Runs R r.encode := fun c =>
  r.encode_eq ▸ ((r.parts_arranges c).mono arrange).bind fun _ c' _ => .single (encode c' _ rfl)

include refresh arrange encode in
/-- Recording a render pass takes steps of every relation that has those of its parts. -/
theorem RenderPass.build_within (r : RenderPass) : Runs R r.build := by
  refine (r.sync.run_within refresh .before).bind fun _ => ?_
  split
  · exact runs_pure ()
  · exact (r.encode_within arrange encode).bind fun _ => r.sync.run_within refresh .after

theorem ComputePass.commands_arranges (r : ComputePass) : Runs Arrange r.commands :=
  r.dispatch.command_arranges.bind fun _ => runs_pure _

include arrange encode in
theorem ComputePass.encode_within (r : ComputePass) : Runs R r.encode := fun c =>
  ((r.commands_arranges c).mono arrange).bind fun _ c' _ => .single (encode c' _ rfl)

/-- Running the hook of a pass takes steps of every relation that has those of the hook. -/
theorem ComputePass.runHook_within
    (called : ∀ c : Context, R c { c with device := c.device.log .hookCalled }) (r : ComputePass)
    (h : ∀ hook, r.hook = some hook → Runs R hook) : Runs R r.runHook := by
  unfold ComputePass.runHook
  cases hh : r.hook with
  | none => exact runs_pure ()
  | some hook => exact Runs.bind (fun c => .single (called c)) fun _ => h hook hh

include refresh arrange encode in
/-- Recording a compute pass takes steps of every relation that has those of its parts and of its
hook. -/
theorem ComputePass.build_within
    (called : ∀ c : Context, R c { c with device := c.device.log .hookCalled }) (r : ComputePass)
    (h : ∀ hook, r.hook = some hook → Runs R hook) : Runs R r.build :=
  (r.sync.run_within refresh .before).bind fun _ =>
    (r.encode_within arrange encode).bind fun _ => (r.runHook_within called h).bind fun _ =>
      r.sync.run_within refresh .after

end Within

/-- Recording a render pass takes steps. -/
theorem RenderPass.build_runs (r : RenderPass) : Runs Step r.build :=
  r.build_within (fun _ _ _ => Refresh.step) (fun _ _ => Arrange.step) fun _ _ => .encode

/-- Recording a compute pass takes steps if its hook does. -/
theorem ComputePass.build_runs (r : ComputePass) (h : ∀ hook, r.hook = some hook → Runs Step hook) :
    Runs Step r.build :=
  r.build_within (fun _ _ _ => Refresh.step) (fun _ _ => Arrange.step) (fun _ _ => .encode)
    (fun _ => .callHook) h

end PassForge
