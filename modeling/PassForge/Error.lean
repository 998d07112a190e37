import PassForge.Gpu.BufferKind
import PassForge.Gpu.TextureFormat
import PassForge.Id
import PassForge.Shader.Reflect

/-!
# Errors

* `ResourceError` is why an operation on a resource fails.
* `DispatchFault` is why a draw or dispatch cannot be made.
* `CompileError` is why a pass cannot be compiled.

`message` words each of them.
-/

namespace PassForge

/-- Why an operation on a resource fails. -/
inductive ResourceError where
  | unknownResource (kind : String) (id : ResourceId)
  | zeroSize (kind : String) (id : ResourceId)
  | limitExceeded (what : String) (value limit : Nat)
  | misaligned (what : String) (value alignment : Nat)
  | writeOutOfBounds (id : ResourceId) (offset length size : Nat)
  | notMappable (id : ResourceId)
  | tooManyMipLevels (id : ResourceId) (requested max : Nat)
  | layerOutOfRange (id : ResourceId) (layer layers : Nat)
  | layerCountMismatch (id : ResourceId) (layers actual : Nat)
  | usageNotSupported (id : ResourceId) (usage : TextureUsage)
  | usageNotDeclared (id : ResourceId)
  | mipLevelOutOfRange (id : ResourceId) (level : Nat)
  | notDepthStencil (id : ResourceId) (format : TextureFormat)
  | surfaceUnavailable
  deriving DecidableEq

/-- The wording of an error. -/
def ResourceError.message : ResourceError → String
  | unknownResource kind id => s!"{kind} {id} is not registered"
  | zeroSize kind id => s!"{kind} {id} has a zero size"
  | limitExceeded what value limit => s!"{what} of {value} reaches the device limit of {limit}"
  | misaligned what value alignment => s!"{what} of {value} is not a multiple of {alignment}"
  | writeOutOfBounds id offset length size =>
    s!"write of {length} bytes at offset {offset} does not fit buffer {id} of {size} bytes"
  | notMappable id => s!"buffer {id} is not a map buffer"
  | tooManyMipLevels id requested max =>
    s!"texture {id} requests {requested} mip levels, at most {max} are possible"
  | layerOutOfRange id layer layers =>
    s!"texture {id} has {layers} layers, layer {layer} is out of range"
  | layerCountMismatch id layers actual =>
    s!"texture {id} has {layers} layers but {actual} layers of contents were supplied"
  | usageNotSupported id usage => s!"texture {id} was not created with {usage.text} usage"
  | usageNotDeclared id =>
    s!"texture {id} has no declared usage, call one of the use_as_* methods first"
  | mipLevelOutOfRange id level => s!"texture {id} has no storage view for mip level {level}"
  | notDepthStencil id format =>
    s!"texture {id} has format {format.title}, a depth-stencil attachment needs a " ++
      "depth or stencil format"
  | surfaceUnavailable => "no surface texture is available for the current frame"

/-- Why a draw or dispatch cannot be made. -/
inductive DispatchFault where
  | noIndexUsage (id : ResourceId)
  | wrongKind (id : ResourceId) (found expected : BufferKind)
  /-- The arguments of so many draws are not in the buffer. -/
  | drawsDoNotFit (count stride : Nat) (id : ResourceId) (size : Nat)
  | tooManyWorkgroups (x y z max : Nat)
  | noIndirectUsage (id : ResourceId)
  /-- The arguments of the dispatch are not in the buffer. -/
  | argumentsDoNotFit (offset : Nat) (id : ResourceId) (size : Nat)
  deriving DecidableEq

/-- The wording of a fault. -/
def DispatchFault.message : DispatchFault → String
  | noIndexUsage id => s!"buffer {id} has no index usage"
  | wrongKind id found expected =>
    s!"buffer {id} is a {found.title} buffer, expected {expected.title}"
  | drawsDoNotFit count stride id size =>
    s!"{count} draws of {stride} bytes do not fit buffer {id} of {size} bytes"
  | tooManyWorkgroups x y z max =>
    s!"workgroup count ({x}, {y}, {z}) exceeds the limit of {max} per dimension"
  | noIndirectUsage id => s!"buffer {id} has no indirect usage"
  | argumentsDoNotFit offset id size =>
    s!"dispatch arguments at offset {offset} do not fit buffer {id} of {size} bytes"

/-- Why a pass cannot be compiled. -/
inductive CompileError where
  | reflect (e : ReflectError)
  | resource (e : ResourceError)
  | missingShader (stage : Stage)
  | shaderStageMismatch (id : ResourceId) (expected found : Stage)
  | unsupportedAttribute (name : String) (role : Role)
  | unsupportedUniform (name : String) (role : Role)
  | attributeNotAssigned (name : String)
  | unsupportedVertexInput (name : String)
  | uniformNotAssigned (name : String) (group binding : Nat)
  | uniformKindMismatch (name expected : String) (role : Role)
  | tooManyBindGroups (stage : Stage) (count limit : Nat)
  | groupOutOfRange (group limit : Nat)
  | conflictingBinding (group binding : Nat) (first second : String)
  | conflictingKind (name : String)
  | bindGroupEntryMismatch (group expected actual : Nat)
  | invalidDispatch (fault : DispatchFault)
  | missingColorTarget (location : Nat)
  | depthSampleCountMismatch (expected actual : Nat)
  | sampleCountMismatch (index expected actual : Nat)
  /-- The sum of a position and a length is no 64-bit number. The run is aborted then, without a
  report. -/
  | addressOverflow
  deriving DecidableEq

/-- The wording of an error. -/
def CompileError.message : CompileError → String
  | reflect e => e.message
  | resource e => e.message
  | missingShader stage => s!"no {stage.name} shader was supplied"
  | shaderStageMismatch id expected found =>
    s!"shader {id} was created as a {expected.name} shader but its entry point is a " ++
      s!"{found.name} entry point"
  | unsupportedAttribute name role =>
    "attribute '" ++ name ++ s!"' is a {role.name}, attributes must be vertex buffers"
  | unsupportedUniform name role =>
    "uniform '" ++ name ++ s!"' is a {role.name}, which cannot be bound"
  | attributeNotAssigned name => "vertex input '" ++ name ++ "' has no assigned attribute"
  | unsupportedVertexInput name => "vertex input '" ++ name ++ "' has no matching vertex format"
  | uniformNotAssigned name group binding =>
    "uniform '" ++ name ++ s!"' (group {group}, binding {binding}) is not assigned"
  | uniformKindMismatch name expected role =>
    "uniform '" ++ name ++ s!"' is a {role.name} but the shader expects a {expected}"
  | tooManyBindGroups stage count limit =>
    s!"{stage.name} stage uses {count} bind groups, the device allows fewer than {limit}"
  | groupOutOfRange group limit =>
    s!"bind group {group} is at or above the device limit of {limit} bind groups"
  | conflictingBinding group binding first second =>
    s!"group {group} binding {binding} is declared as both '" ++ first ++ "' and '" ++ second ++ "'"
  | conflictingKind name =>
    "'" ++ name ++ "' is declared with different resource kinds across stages"
  | bindGroupEntryMismatch group expected actual =>
    s!"bind group {group} entries analysis error: the layout expects {expected} entries, " ++
      s!"{actual} were resolved"
  | invalidDispatch fault => s!"invalid dispatch: {fault.message}"
  | missingColorTarget location =>
    s!"fragment output @location({location}) has no color attachment"
  | depthSampleCountMismatch expected actual =>
    s!"depth-stencil attachment has {actual} samples, the pipeline uses {expected}"
  | sampleCountMismatch index expected actual =>
    s!"color attachment {index} has {actual} samples, the pipeline uses {expected}"
  | addressOverflow => ""

end PassForge
