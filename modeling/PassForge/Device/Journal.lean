import PassForge.Device.Basic

/-!
# The journal

A `Journal` sums up the trace of a device: how many objects of each kind have been made, what has
been written, and how many commands each encoded pass has.
-/

namespace PassForge

/-- A write to a buffer. -/
structure BufferWritten where
  /-- The serial of the buffer. -/
  buffer : Nat
  offset : Nat
  length : Nat
  deriving DecidableEq

/-- A write to a texture. -/
structure TextureWritten where
  /-- The serial of the texture. -/
  texture : Nat
  mip : Nat
  layer : Nat
  length : Nat
  deriving DecidableEq

/-- A summary of a trace. -/
structure Journal where
  buffers : Nat
  textures : Nat
  views : Nat
  samplers : Nat
  shaderModules : Nat
  bindGroups : Nat
  renderPipelines : Nat
  computePipelines : Nat
  /-- The number of entries of each bind group layout. -/
  bindGroupLayouts : List Nat
  /-- The number of bind group layouts of each pipeline layout. -/
  pipelineLayouts : List Nat
  bufferWrites : List BufferWritten
  textureWrites : List TextureWritten
  /-- The number of commands of each render pass. -/
  renderPasses : List Nat
  /-- The number of commands of each compute pass. -/
  computePasses : List Nat
  deriving DecidableEq

/-- The summary of a trace. -/
def Journal.ofTrace (trace : List Event) : Journal where
  buffers := trace.countP (· matches .bufferCreated ..)
  textures := trace.countP (· matches .textureCreated ..)
  views := trace.countP (· matches .viewCreated ..)
  samplers := trace.countP (· matches .samplerCreated ..)
  shaderModules := trace.countP (· matches .shaderModuleCreated ..)
  bindGroups := trace.countP (· matches .bindGroupCreated ..)
  renderPipelines := trace.countP (· matches .renderPipelineCreated ..)
  computePipelines := trace.countP (· matches .computePipelineCreated ..)
  bindGroupLayouts := trace.filterMap fun
    | .bindGroupLayoutCreated _ _ entries => some entries.length
    | _ => none
  pipelineLayouts := trace.filterMap fun
    | .pipelineLayoutCreated _ _ layouts => some layouts.length
    | _ => none
  bufferWrites := trace.filterMap fun
    | .bufferWritten buffer offset data => some ⟨buffer, offset, data.size⟩
    | _ => none
  textureWrites := trace.filterMap fun
    | .textureWritten texture w => some ⟨texture, w.mip, w.layer, w.data.size⟩
    | _ => none
  renderPasses := trace.filterMap fun
    | .renderPass _ _ _ commands => some commands.length
    | _ => none
  computePasses := trace.filterMap fun
    | .computePass _ commands => some commands.length
    | _ => none

end PassForge
