import PassForge.Gpu.Vertex
import PassForge.Gpu.View
import PassForge.Shader.Module

/-!
# Shader interfaces

The `ShaderInterface` of an entry point says what has to be bound for it, which vertex inputs it
declares and which colour outputs it writes.

* `groups` lists the bindings by group, the groups in ascending order.
* `binding?` finds a binding by the name of its global.
-/

namespace PassForge

/-- The class of values of a sampled texture binding. -/
inductive SampleKind where
  | float | depth | sint | uint
  deriving DecidableEq

namespace SampleKind

/-- The name of a class of values. -/
def name : SampleKind → String
  | float => "float"
  | depth => "depth"
  | sint => "sint"
  | uint => "uint"

/-- The class of values with a given name. -/
def ofName? (s : String) : Option SampleKind :=
  [float, depth, sint, uint].find? fun k => k.name = s

end SampleKind

/-- How a shader accesses the texels of a storage texture. -/
inductive StorageAccess where
  | readOnly | writeOnly | readWrite
  deriving DecidableEq

namespace StorageAccess

/-- The name of an access mode. -/
def name : StorageAccess → String
  | readOnly => "read-only"
  | writeOnly => "write-only"
  | readWrite => "read-write"

/-- The access mode with a given name. -/
def ofName? (s : String) : Option StorageAccess :=
  [readOnly, writeOnly, readWrite].find? fun a => a.name = s

/-- The access mode of a declared access. -/
def ofTexelAccess (a : TexelAccess) : StorageAccess :=
  match a.load, a.store with
  | true, true => readWrite
  | false, true => writeOnly
  | _, _ => readOnly

end StorageAccess

/-- The kind of resource that a binding expects. -/
inductive ResourceKind where
  | uniformBuffer
  | storageBuffer (readOnly : Bool)
  | texture (dimension : ViewDimension) (sample : SampleKind) (multisampled : Bool)
  | storageTexture (dimension : ViewDimension) (access : StorageAccess) (format : String)
  | sampler (comparison : Bool)
  deriving DecidableEq

namespace ResourceKind

/-- Whether a buffer is expected. -/
def isBuffer : ResourceKind → Bool
  | uniformBuffer | storageBuffer _ => true
  | _ => false

/-- The name of a kind in messages. -/
def name : ResourceKind → String
  | uniformBuffer => "uniform buffer"
  | storageBuffer _ => "storage buffer"
  | texture _ _ _ => "texture"
  | storageTexture _ _ _ => "storage texture"
  | sampler false => "sampler"
  | sampler true => "comparison sampler"

end ResourceKind

/-- One resource that an entry point uses. -/
structure ShaderBinding where
  /-- The name of the global. -/
  name : String
  group : Nat
  binding : Nat
  kind : ResourceKind
  /-- Bytes of the bound type, for buffers. -/
  size : Option Nat
  deriving DecidableEq

/-- An input of a vertex entry point. -/
structure VertexInput where
  name : String
  location : Nat
  format : InputFormat
  deriving DecidableEq

/-- An output of a fragment entry point. -/
structure ColorOutput where
  location : Nat
  components : Nat
  deriving DecidableEq

/-- What an entry point needs and delivers. -/
structure ShaderInterface where
  /-- The name of the entry point. -/
  entryPoint : String
  stage : Stage
  bindings : List ShaderBinding := []
  vertexInputs : List VertexInput := []
  colorOutputs : List ColorOutput := []
  /-- Invocations per workgroup of a compute entry point, and zeros otherwise. -/
  workgroupSize : List Nat := [0, 0, 0]
  deriving DecidableEq, Inhabited

namespace ShaderInterface

/-- The groups that are used, each once and in ascending order. -/
def groupIndices (i : ShaderInterface) : List Nat :=
  ((i.bindings.map ShaderBinding.group).mergeSort (· ≤ ·)).eraseDups

/-- The bindings of one group, in the order of the interface. -/
def inGroup (i : ShaderInterface) (group : Nat) : List ShaderBinding :=
  i.bindings.filter fun b => b.group = group

/-- The bindings by group. -/
def groups (i : ShaderInterface) : List (Nat × List ShaderBinding) :=
  i.groupIndices.map fun g => (g, i.inGroup g)

/-- The number of groups that are used. -/
def groupCount (i : ShaderInterface) : Nat := i.groupIndices.length

/-- The binding of the global with a given name. -/
def binding? (i : ShaderInterface) (name : String) : Option ShaderBinding :=
  i.bindings.find? fun b => b.name = name

end ShaderInterface

end PassForge
