import PassForge.Binding.Group
import PassForge.Context.Create
import PassForge.Draw.Dispatch
import PassForge.Pass.Stage
import PassForge.Pass.Sync

/-!
# Compute passes

A `ComputeDesc` says what a compute pass is made of. `ComputeDesc.compile` checks it against the
resources of the context and makes the device pipeline; `ComputePass.build` records the pass.

* `ComputeDesc.prepare` is the part of compiling that can fail.
* A pass is recorded between two synchronisations. Its hook runs after the pass is encoded and
  before the second of them.
-/

namespace PassForge

/-- Work that a compute pass does right after it is encoded. -/
abbrev Hook := Work ResourceError Unit

/-- What a compute pass is compiled from. Resources are named by id. -/
structure ComputeDesc where
  label : Option String := none
  shader : Option ResourceId := none
  /-- What is bound to the globals. -/
  uniforms : Bag := .empty
  dispatch : Dispatch
  hook : Option Hook := none

/-- What compiling a compute pass has found out and made before its pipeline. -/
structure ComputePlan where
  shader : ResourceId
  uniforms : UniformTable
  /-- The serial of the pipeline layout. -/
  layout : Nat
  /-- The serials of the bind groups. -/
  bindGroups : List Nat

/-- A compiled compute pass. -/
structure ComputePass where
  label : Option String
  /-- The id of the pipeline in its store. -/
  pipelineId : ResourceId
  /-- The serial of the pipeline. -/
  pipeline : Nat
  /-- The serials of the bind groups by index. -/
  bindGroups : List Nat
  dispatch : Dispatch
  hook : Option Hook
  sync : SyncPlan

namespace ComputeDesc

/-- Checks a description and makes the layouts and bind groups of its pass. -/
def prepare (d : ComputeDesc) : Work CompileError ComputePlan := do
  let shader ← Work.needShader .compute d.shader
  let i ← Work.stageInterface .compute shader
  let uniforms ← (d.uniforms.uniforms : Except CompileError _)
  let layouts ← makeLayouts [i] uniforms
  let c ← Work.context
  let () ← (d.dispatch.check c.buffers c.device.limits : Except CompileError _)
  let layout ← makePipelineLayout d.label layouts
  let bindGroups ← makeBindGroups uniforms layouts
  return { shader, uniforms, layout, bindGroups }

/-- The device pipeline of a shader. -/
def pipeline (d : ComputeDesc) (shader : Shader) (serial : Nat) : Pipeline where
  serial := serial
  label := d.label
  entryPoints := [shader.entryPoint]

/-- Makes the pipeline of a plan and registers it. -/
def finish (d : ComputeDesc) (p : ComputePlan) : Work CompileError ComputePass := do
  let shader ← Work.find .shaders p.shader
  let shaderModule ← Work.on .shaders p.shader Shader.handle
  let pipeline ← Work.call (Device.createComputePipeline p.layout shaderModule (d.pipeline shader))
  let pipelineId ← Work.registerPipeline pipeline
  return {
    label := d.label
    pipelineId := pipelineId
    pipeline := pipeline.serial
    bindGroups := p.bindGroups
    dispatch := d.dispatch
    hook := d.hook
    sync := .forPass p.uniforms d.dispatch.buffers }

/-- Compiles a compute pass. -/
def compile (d : ComputeDesc) : Work CompileError ComputePass := do
  let p ← d.prepare
  d.finish p

end ComputeDesc

namespace ComputePass

/-- The commands of a pass: its pipeline, its bind groups by index, and its dispatch. -/
def commands (r : ComputePass) : Work ResourceError (List ComputeCommand) := do
  let dispatch ← r.dispatch.command
  return .setPipeline r.pipeline
    :: (r.bindGroups.zipIdx.map fun p => .setBindGroup p.2 p.1)
    ++ [dispatch]

/-- Encodes a pass. -/
def encode (r : ComputePass) : Work ResourceError Unit := do
  let commands ← r.commands
  Work.log (.computePass r.label commands)

/-- Runs the hook of a pass, if it has one. -/
def runHook (r : ComputePass) : Work ResourceError Unit :=
  match r.hook with
  | none => pure ()
  | some hook => do
    Work.log .hookCalled
    hook

/-- Records a pass between its two synchronisations. -/
def build (r : ComputePass) : Work ResourceError Unit := do
  r.sync.run .before
  r.encode
  r.runHook
  r.sync.run .after

/-- The shown text of a compute pass. -/
def text (r : ComputePass) : String :=
  Text.fields "ComputeHolder" [
    ("label", Text.label r.label), ("pipeline_id", r.pipelineId.text),
    ("bind_groups", toString r.bindGroups.length), ("dispatch", r.dispatch.text),
    ("hook", Text.bool r.hook.isSome)]

end ComputePass

end PassForge
