import PassForge.Binding.Group
import PassForge.Context.Create
import PassForge.Draw.Basic
import PassForge.Draw.Vertices
import PassForge.Pass.Attachments
import PassForge.Pass.Stage
import PassForge.Pass.Sync
import PassForge.Pass.Targets

/-!
# Render passes

A `RenderDesc` says what a render pass is made of. `RenderDesc.compile` checks it against the
resources of the context and makes the device pipeline; `RenderPass.build` records the pass.

* `RenderDesc.prepare` is the part of compiling that can fail. It makes layouts and bind groups, but
  no shader modules and no pipeline, and registers nothing.
* A pass is recorded between two synchronisations: one before its attachments are read, one after it
  is encoded. A pass without colour attachments is not recorded and ends after the first.
-/

namespace PassForge

/-- What a render pass is compiled from. Resources are named by id. -/
structure RenderDesc where
  label : Option String := none
  vertexShader : Option ResourceId := none
  fragmentShader : Option ResourceId := none
  /-- The vertex buffers that feed the vertex inputs. -/
  attributes : Bag := .empty
  /-- What is bound to the globals. -/
  uniforms : Bag := .empty
  draw : Draw
  primitive : PrimitiveOptions := {}
  samples : SampleCount := .x1
  colors : List ResourceId := []
  depth : Option ResourceId := none

/-- What compiling a render pass has found out and made before its pipeline. -/
structure RenderPlan where
  vertexShader : ResourceId
  fragmentShader : ResourceId
  uniforms : UniformTable
  targets : List ColorTarget
  depth : Option DepthStencilState
  /-- The serial of the pipeline layout. -/
  layout : Nat
  vertices : VertexState
  /-- The serials of the bind groups. -/
  bindGroups : List Nat

/-- A compiled render pass. -/
structure RenderPass where
  label : Option String
  /-- The id of the pipeline in its store. -/
  pipelineId : ResourceId
  /-- The serial of the pipeline. -/
  pipeline : Nat
  /-- The vertex buffers by slot. -/
  vertexBuffers : List ResourceId
  /-- The serials of the bind groups by index. -/
  bindGroups : List Nat
  colors : List ResourceId
  depth : Option ResourceId
  draw : Draw
  sync : SyncPlan
  deriving DecidableEq

namespace RenderDesc

/-- Checks a description and makes the layouts and bind groups of its pass. -/
def prepare (d : RenderDesc) : Work CompileError RenderPlan := do
  let vertexShader ← Work.needShader .vertex d.vertexShader
  let fragmentShader ← Work.needShader .fragment d.fragmentShader
  let vertex ← Work.stageInterface .vertex vertexShader
  let fragment ← Work.stageInterface .fragment fragmentShader
  let attributes ← (d.attributes.attributes : Except CompileError _)
  let uniforms ← (d.uniforms.uniforms : Except CompileError _)
  let layouts ← makeLayouts [vertex, fragment] uniforms
  let c ← Work.context
  let () ← (d.draw.check c.buffers : Except CompileError _)
  let targets ← (colorTargets c d.samples d.colors : Except CompileError _)
  let () ← (checkOutputs fragment targets : Except CompileError _)
  let depth ← (depthState c d.samples d.depth : Except CompileError _)
  let layout ← makePipelineLayout d.label layouts
  let vertices ← (vertexState vertex.vertexInputs attributes c.buffers : Except CompileError _)
  let bindGroups ← makeBindGroups uniforms layouts
  return { vertexShader, fragmentShader, uniforms, targets, depth, layout, vertices, bindGroups }

/-- The device pipeline that a plan asks for. -/
def pipeline (d : RenderDesc) (p : RenderPlan) (vertex fragment : Shader) (serial : Nat) :
    Pipeline where
  serial := serial
  label := d.label
  entryPoints := [vertex.entryPoint, fragment.entryPoint]
  vertexBuffers := p.vertices.layouts
  targets := p.targets
  primitive := some (d.primitive.state d.draw.indexFormat?)
  depthStencil := p.depth
  sampleCount := d.samples.count

/-- Makes the pipeline of a plan and registers it. -/
def finish (d : RenderDesc) (p : RenderPlan) : Work CompileError RenderPass := do
  let vertex ← Work.find .shaders p.vertexShader
  let fragment ← Work.find .shaders p.fragmentShader
  let vertexModule ← Work.on .shaders p.vertexShader Shader.handle
  let fragmentModule ← Work.on .shaders p.fragmentShader Shader.handle
  let pipeline ← Work.call (Device.createRenderPipeline p.layout vertexModule fragmentModule
    d.samples.state (d.pipeline p vertex fragment))
  let pipelineId ← Work.registerPipeline pipeline
  return {
    label := d.label
    pipelineId := pipelineId
    pipeline := pipeline.serial
    vertexBuffers := p.vertices.buffers
    bindGroups := p.bindGroups
    colors := d.colors
    depth := d.depth
    draw := d.draw
    sync := .forPass p.uniforms (p.vertices.buffers ++ d.draw.buffers) }

/-- Compiles a render pass. -/
def compile (d : RenderDesc) : Work CompileError RenderPass := do
  let p ← d.prepare
  d.finish p

end RenderDesc

namespace RenderPass

/-- The commands of a pass: its pipeline, its vertex buffers by slot, its bind groups by index, and
its draw. -/
def commands (r : RenderPass) : Work ResourceError (List RenderCommand) := do
  let buffers ← r.vertexBuffers.mapM fun id => Work.on .buffers id Buffer.handle
  let draw ← r.draw.commands
  return .setPipeline r.pipeline
    :: (buffers.zipIdx.map fun p => .setVertexBuffer p.2 p.1)
    ++ (r.bindGroups.zipIdx.map fun p => .setBindGroup p.2 p.1)
    ++ draw

/-- Encodes a pass. -/
def encode (r : RenderPass) : Work ResourceError Unit := do
  let colors ← r.colors.mapM Work.colorPass
  let depth ← r.depth.mapM Work.depthPass
  let commands ← r.commands
  Work.log (.renderPass r.label colors depth commands)

/-- Records a pass between its two synchronisations. -/
def build (r : RenderPass) : Work ResourceError Unit := do
  r.sync.run .before
  if r.colors.isEmpty then return
  r.encode
  r.sync.run .after

/-- The shown text of a render pass. -/
def text (r : RenderPass) : String :=
  Text.fields "RenderHolder" [
    ("label", Text.label r.label), ("pipeline_id", r.pipelineId.text),
    ("vertex_buffers", toString r.vertexBuffers.length),
    ("bind_groups", toString r.bindGroups.length),
    ("color_attachments", toString r.colors.length), ("dispatch", r.draw.text)]

end RenderPass

end PassForge
