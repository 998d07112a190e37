import PassForge.Gpu.Blend
import PassForge.Gpu.DepthStencil
import PassForge.Gpu.Primitive

/-!
# Device pipelines
-/

namespace PassForge

/-- A colour target of a pipeline. -/
structure ColorTarget where
  format : TextureFormat
  blend : Option BlendState
  /-- A bit per channel that is written. -/
  writeMask : Nat := 15
  deriving DecidableEq

/-- A pipeline that the device has made. A compute pipeline has one entry point and no render
state. -/
structure Pipeline where
  serial : Nat
  label : Option String
  entryPoints : List String
  vertexBuffers : List VertexBufferLayout := []
  targets : List ColorTarget := []
  primitive : Option PrimitiveState := none
  depthStencil : Option DepthStencilState := none
  sampleCount : Nat := 1
  deriving DecidableEq

end PassForge
