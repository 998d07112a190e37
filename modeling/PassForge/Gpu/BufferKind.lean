import PassForge.Gpu.Role
import PassForge.Gpu.Usage

/-!
# Device limits and kinds of buffers

The kind of a buffer is fixed when it is created. It decides which device usages the buffer has,
which device limit its size must stay below and of what its size must be a multiple.
-/

namespace PassForge

/-- The limits of a device that resources and pipelines are checked against. -/
structure Limits where
  maxBindGroups : Nat := 4
  maxBufferSize : Nat := 268435456
  maxUniformBufferBindingSize : Nat := 65536
  maxStorageBufferBindingSize : Nat := 134217728
  maxTextureDimension : Nat := 8192
  maxTextureArrayLayers : Nat := 256
  minUniformOffsetAlignment : Nat := 256
  minStorageOffsetAlignment : Nat := 256
  maxComputeWorkgroupsPerDimension : Nat := 65535
  deriving DecidableEq, Inhabited

/-- The part that a buffer plays. -/
inductive BufferKind where
  | vertex
  /-- Indices of 32 bits. -/
  | index
  | uniform
  | storage
  /-- Storage that is also read as indices. -/
  | indexedStorage
  /-- Storage that holds the arguments of draws or dispatches. -/
  | indirect
  /-- Storage that holds the arguments of indexed draws. -/
  | indexedIndirect
  /-- Storage whose contents are copied into a staging buffer that the host can map. -/
  | map
  deriving DecidableEq

/-- Bytes of the arguments of one draw. -/
def drawArgumentsSize : Nat := 16

/-- Bytes of the arguments of one indexed draw. -/
def drawIndexedArgumentsSize : Nat := 20

/-- Bytes of the arguments of one dispatch. -/
def dispatchArgumentsSize : Nat := 12

namespace BufferKind

/-- The name of a kind in messages. -/
def name : BufferKind → String
  | vertex => "vertex buffer"
  | index => "index buffer"
  | uniform => "uniform buffer"
  | storage => "storage buffer"
  | indexedStorage => "indexed storage buffer"
  | indirect => "indirect buffer"
  | indexedIndirect => "indexed indirect buffer"
  | map => "map buffer"

/-- The name of a kind in shown values. -/
def title : BufferKind → String
  | vertex => "Vertex"
  | index => "Index"
  | uniform => "Uniform"
  | storage => "Storage"
  | indexedStorage => "IndexedStorage"
  | indirect => "Indirect"
  | indexedIndirect => "IndexedIndirect"
  | map => "Map"

/-- The usages of the device buffer. -/
def usage : BufferKind → BufferUsage
  | vertex => { vertex := true, copyTarget := true }
  | index => { index := true, copyTarget := true }
  | uniform => { uniform := true, copyTarget := true }
  | storage | map => { storage := true, copyTarget := true, copySource := true }
  | indexedStorage => { storage := true, index := true, copyTarget := true, copySource := true }
  | indirect | indexedIndirect =>
    { storage := true, indirect := true, copyTarget := true, copySource := true }

/-- The role in which a buffer is assigned. -/
def role : BufferKind → Role
  | vertex => .vertexBuffer
  | index => .indexBuffer
  | uniform => .uniformBuffer
  | storage => .storageBuffer
  | indexedStorage => .indexedStorageBuffer
  | indirect => .indirectBuffer
  | indexedIndirect => .indexedIndirectBuffer
  | map => .mapBuffer

/-- The device limit that the size must stay below. -/
def sizeLimit (k : BufferKind) (l : Limits) : Nat :=
  match k with
  | vertex | index => l.maxBufferSize
  | uniform => l.maxUniformBufferBindingSize
  | storage | indexedStorage | indirect | indexedIndirect | map => l.maxStorageBufferBindingSize

/-- The name of that limit. -/
def sizeLimitName : BufferKind → String
  | vertex | index => "buffer size"
  | uniform => "uniform buffer binding size"
  | storage | indexedStorage | indirect | indexedIndirect | map => "storage buffer binding size"

/-- What the size must be a multiple of. -/
def sizeMultiple : BufferKind → Nat
  | index => 4
  | indirect => drawArgumentsSize
  | indexedIndirect => drawIndexedArgumentsSize
  | _ => 1

end BufferKind

end PassForge
