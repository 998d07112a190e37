import PassForge.Shader.Extent
import PassForge.Shader.Interface
import PassForge.Shader.Usage

/-!
# The interface of an entry point

`ShaderModule.reflect` derives the interface of one entry point. Only globals that the entry point
uses are reported, and only those are checked: an unused global cannot make it fail.

* `ReflectError` names the reasons for which there is no interface.
* `resourceKind` classifies a global, `inputFormat?` a vertex input.
* Vertex inputs and colour outputs are the located arguments and results together with the located
  members of those that are passed by their members.
-/

namespace PassForge

/-- Why a global cannot be bound. -/
inductive BindingFault where
  | addressSpace | textureArray1d | sampleType | bindingArray | opaqueType
  deriving DecidableEq

/-- The wording of a fault. -/
def BindingFault.message : BindingFault → String
  | .addressSpace => "address space cannot be bound"
  | .textureArray1d => "1d texture arrays do not exist"
  | .sampleType => "texture sample type must be f32, i32 or u32"
  | .bindingArray => "binding arrays are not supported"
  | .opaqueType => "handle type is neither a texture nor a sampler"

/-- Why an entry point has no interface. -/
inductive ReflectError where
  /-- The source of the module is not a module. -/
  | parse
  /-- The module breaks a rule of the language. -/
  | validation
  | entryPointNotFound (name : String)
  /-- A used global cannot be bound. -/
  | unsupportedBinding (name : String) (fault : BindingFault)
  /-- A located input has no vertex format. -/
  | unsupportedVertexInput (name : String)
  /-- The entry point runs in a stage that no pipeline built here has. -/
  | unsupportedStage (name : String)
  deriving DecidableEq

/-- The wording of an error. -/
def ReflectError.message : ReflectError → String
  | .parse => "WGSL parse error:"
  | .validation => "WGSL validation error:"
  | .entryPointNotFound name => "Entry point '" ++ name ++ "' not found"
  | .unsupportedBinding name fault =>
    "Resource '" ++ name ++ "' cannot be bound: " ++ fault.message
  | .unsupportedVertexInput name => "Vertex input '" ++ name ++ "' has no matching vertex format"
  | .unsupportedStage name =>
    "Entry point '" ++ name ++ "' is not a vertex, fragment or compute stage"

/-! ## Resources -/

/-- The view dimension of a texture shape, if there is one. -/
def ImageShape.dimension? : ImageShape → Option ViewDimension
  | .d1 => some .d1
  | .d1Array => none
  | .d2 => some .d2
  | .d2Array => some .d2Array
  | .d3 => some .d3
  | .cube => some .cube
  | .cubeArray => some .cubeArray

/-- The class of values of a texture that is sampled, if there is one. -/
def ScalarKind.sample? : ScalarKind → Option SampleKind
  | .float => some .float
  | .sint => some .sint
  | .uint => some .uint
  | .bool => none

/-- The last words of texel format names, which say how the bits of a component are read. -/
def texelFormatEndings : List String := ["unorm", "snorm", "uint", "sint", "float"]

/-- The reported name of a texel format: a capital stands at the front and at the ending. -/
def texelFormatTitle (name : String) : String :=
  if name = "rg11b10float" then "Rg11b10Ufloat"
  else
    match texelFormatEndings.find? fun e => name.endsWith e with
    | some ending => (name.dropEnd ending.length).toString.capitalize ++ ending.capitalize
    | none => name.capitalize

/-- The kind of resource that a handle type stands for. -/
def ShaderType.handleKind : ShaderType → Except BindingFault ResourceKind
  | .sampler comparison => .ok (.sampler comparison)
  | .image shape what =>
    match shape.dimension? with
    | none => .error .textureArray1d
    | some dimension =>
      match what with
      | .sampled kind multisampled =>
        match kind.sample? with
        | some sample => .ok (.texture dimension sample multisampled)
        | none => .error .sampleType
      | .depth multisampled => .ok (.texture dimension .depth multisampled)
      | .storage format access =>
        .ok (.storageTexture dimension (.ofTexelAccess access) (texelFormatTitle format))
  | .bindingArray _ _ => .error .bindingArray
  | _ => .error .opaqueType

/-- The kind of resource that a bound global stands for. -/
def Global.resourceKind (g : Global) : Except BindingFault ResourceKind :=
  match g.space with
  | .uniform => .ok .uniformBuffer
  | .storage writable => .ok (.storageBuffer !writable)
  | .handle => g.type.handleKind
  | .invocation | .workgroup | .pushConstant => .error .addressSpace

/-- The name under which a bound global is reported. -/
def ShaderModule.bindingName (m : ShaderModule) (g : Global) (slot : Slot) : String :=
  if m.named then g.name
  else "group" ++ toString slot.group ++ "_binding" ++ toString slot.binding

/-- The binding that a global reports, if it is bound at all. -/
def ShaderModule.reflectGlobal (m : ShaderModule) (g : Global) (slot : Slot) :
    Except ReflectError ShaderBinding :=
  let name := m.bindingName g slot
  match g.resourceKind with
  | .error fault => .error (.unsupportedBinding name fault)
  | .ok kind => .ok {
      name := name
      group := slot.group
      binding := slot.binding
      kind := kind
      size := if kind.isBuffer then some (m.extent g.type).size else none }

/-- The bound globals that an entry point uses, in the order of their declaration. -/
def ShaderModule.boundGlobals (m : ShaderModule) (e : EntryPoint) : List (Global × Slot) :=
  let used := m.usedGlobals e
  m.globals.filterMap fun g =>
    match g.slot with
    | some slot => if used.contains g.name then some (g, slot) else none
    | none => none

/-- The order of bindings: by group, and by binding within a group. -/
def ShaderBinding.precedes (a b : ShaderBinding) : Bool :=
  decide (a.group < b.group) || (a.group = b.group && decide (a.binding ≤ b.binding))

/-! ## Inputs and outputs -/

/-- A value that is passed at a location. -/
structure Located where
  name : Option String
  type : ShaderType
  location : Nat

/-- The values that an input or output of the given type passes at locations. -/
def ShaderModule.located (m : ShaderModule) (name : Option String) (type : ShaderType)
    (passing : Passing) : List Located :=
  match passing with
  | .location n => [⟨name, type, n⟩]
  | .builtin => []
  | .members =>
    match type with
    | .named s =>
      match m.struct? s with
      | none => []
      | some d => d.members.filterMap fun member =>
          match member.passing with
          | .location n => some ⟨if m.named then some member.name else none, member.type, n⟩
          | _ => none
    | _ => []

/-- The numeric class of scalars that a vertex buffer can hold. -/
def ScalarKind.numeric? : ScalarKind → Option NumericKind
  | .float => some .float
  | .sint => some .sint
  | .uint => some .uint
  | .bool => none

/-- The shape of a scalar or a vector of numbers. -/
def ShaderType.inputFormat? : ShaderType → Option InputFormat
  | .scalar s => s.kind.numeric?.map fun k => ⟨k, 1, s.width⟩
  | .vector size s => s.kind.numeric?.map fun k => ⟨k, size, s.width⟩
  | _ => none

/-- The vertex input that a located value declares. -/
def Located.vertexInput (l : Located) : Except ReflectError VertexInput :=
  let name := l.name.getD ("location" ++ toString l.location)
  match l.type.inputFormat? with
  | some format => .ok ⟨name, l.location, format⟩
  | none => .error (.unsupportedVertexInput name)

/-- The colour output that a located value declares. A type without a numeric shape counts as four
components. -/
def Located.colorOutput (l : Located) : ColorOutput :=
  ⟨l.location, (l.type.inputFormat?.map InputFormat.components).getD 4⟩

/-- The located inputs of an entry point, in the order of their declaration. -/
def ShaderModule.locatedInputs (m : ShaderModule) (e : EntryPoint) : List Located :=
  e.arguments.flatMap fun a => m.located (if m.named then some a.name else none) a.type a.passing

/-- The located outputs of an entry point, in the order of their declaration. -/
def ShaderModule.locatedOutputs (m : ShaderModule) (e : EntryPoint) : List Located :=
  match e.result with
  | some r => m.located none r.type r.passing
  | none => []

/-- The vertex inputs of an entry point in the order of their locations. -/
def ShaderModule.vertexInputs (m : ShaderModule) (e : EntryPoint) :
    Except ReflectError (List VertexInput) := do
  let inputs ← (m.locatedInputs e).mapM Located.vertexInput
  return inputs.mergeSort fun a b => decide (a.location ≤ b.location)

/-- The colour outputs of an entry point in the order of their locations. -/
def ShaderModule.colorOutputs (m : ShaderModule) (e : EntryPoint) : List ColorOutput :=
  ((m.locatedOutputs e).map Located.colorOutput).mergeSort fun a b =>
    decide (a.location ≤ b.location)

/-! ## The interface -/

/-- The interface of an entry point of a pipeline stage. -/
def ShaderModule.entryInterface (m : ShaderModule) (e : EntryPoint) (stage : Stage) :
    Except ReflectError ShaderInterface := do
  let bindings ← (m.boundGlobals e).mapM fun p => m.reflectGlobal p.1 p.2
  let inputs ← if stage = .vertex then m.vertexInputs e else pure []
  return {
    entryPoint := e.name
    stage := stage
    bindings := bindings.mergeSort ShaderBinding.precedes
    vertexInputs := inputs
    colorOutputs := if stage = .fragment then m.colorOutputs e else []
    workgroupSize := if stage = .compute then e.workgroupSize else [0, 0, 0] }

/-- The interface of the entry point with a given name. -/
def ShaderModule.reflect (m : ShaderModule) (entryPoint : String) :
    Except ReflectError ShaderInterface :=
  match m.source with
  | .unparsable => .error .parse
  | .invalid => .error .validation
  | .valid =>
    match m.entry? entryPoint with
    | none => .error (.entryPointNotFound entryPoint)
    | some e =>
      match e.stage with
      | .pipeline stage => m.entryInterface e stage
      | .task | .mesh => .error (.unsupportedStage entryPoint)

end PassForge
