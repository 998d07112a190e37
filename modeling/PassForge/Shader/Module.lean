import PassForge.Gpu.View
import PassForge.Shader.Stage

/-!
# Shader modules

A `ShaderModule` describes a shader: its types, its global variables with the group and binding they
are bound at, which functions use which globals and call which functions, and its entry points with
their inputs and outputs.

* `ShaderType` is the type of a global, a member, an argument or a result.
* `ShaderType.ofText` reads the notation of scalar, vector, matrix and atomic types.
* `ShaderModule.entry?` finds an entry point, `struct?` a structure type and `function?` a function
  by name; of several with one name the first counts.
-/

namespace PassForge

/-- The class of a scalar. -/
inductive ScalarKind where
  | float | sint | uint | bool
  deriving DecidableEq

/-- A scalar type: its class and its width in bytes. -/
structure ScalarType where
  kind : ScalarKind
  width : Nat
  deriving DecidableEq

/-- The shape of the texels of a texture type. -/
inductive ImageShape where
  | d1 | d1Array | d2 | d2Array | d3 | cube | cubeArray
  deriving DecidableEq

/-- The ways in which a shader accesses a storage texture. -/
structure TexelAccess where
  load : Bool
  store : Bool
  deriving DecidableEq

/-- What a texture type is for. -/
inductive ImageClass where
  /-- Reading filtered or single values of a class. -/
  | sampled (kind : ScalarKind) (multisampled : Bool)
  /-- Reading or comparing depth values. -/
  | depth (multisampled : Bool)
  /-- Loading and storing texels of a format. -/
  | storage (format : String) (access : TexelAccess)
  deriving DecidableEq

/-- A type of the shading language. -/
inductive ShaderType where
  | scalar (s : ScalarType)
  | vector (size : Nat) (s : ScalarType)
  | matrix (columns rows : Nat) (s : ScalarType)
  | atomic (s : ScalarType)
  /-- A structure type, by name. -/
  | named (name : String)
  /-- An array; without a length it is as long as the buffer allows. -/
  | array (element : ShaderType) (length : Option Nat)
  /-- An array of resources. -/
  | bindingArray (element : ShaderType) (length : Option Nat)
  | sampler (comparison : Bool)
  | image (shape : ImageShape) (what : ImageClass)
  | accelerationStructure

/-- How an input or output of an entry point is passed. -/
inductive Passing where
  /-- At a numbered location. -/
  | location (n : Nat)
  /-- As a value that the pipeline supplies or consumes itself. -/
  | builtin
  /-- By the members of its structure type. -/
  | members
  deriving DecidableEq

/-- A member of a structure type. -/
structure Member where
  name : String
  type : ShaderType
  /-- An alignment in the source, in place of the type's own. -/
  align : Option Nat := none
  /-- A size in the source, in place of the type's own. -/
  size : Option Nat := none
  passing : Passing := .members

/-- A structure type. -/
structure StructDecl where
  name : String
  members : List Member

/-- Where a global variable lives. -/
inductive AddressSpace where
  | uniform
  | storage (writable : Bool)
  /-- Textures, samplers and other opaque objects. -/
  | handle
  /-- Memory of one invocation. -/
  | invocation
  /-- Memory shared by the invocations of a workgroup. -/
  | workgroup
  | pushConstant
  deriving DecidableEq

/-- The place of a bound resource. -/
structure Slot where
  group : Nat
  binding : Nat
  deriving DecidableEq

/-- A global variable. -/
structure Global where
  name : String
  space : AddressSpace
  type : ShaderType
  /-- Where the variable is bound, if it is a resource. -/
  slot : Option Slot := none

/-- A function that entry points can reach. -/
structure FunctionDecl where
  name : String
  /-- Names of the globals that the body uses. -/
  uses : List String
  /-- Names of the functions that the body calls. -/
  calls : List String

/-- The stage that an entry point is written for. -/
inductive EntryStage where
  /-- A stage of the pipelines that are built here. -/
  | pipeline (stage : Stage)
  | task
  | mesh
  deriving DecidableEq

/-- An argument of an entry point. -/
structure Argument where
  name : String
  type : ShaderType
  passing : Passing

/-- The result of an entry point. -/
structure Output where
  type : ShaderType
  passing : Passing

/-- An entry point. -/
structure EntryPoint where
  name : String
  stage : EntryStage
  arguments : List Argument := []
  result : Option Output := none
  /-- Names of the globals that the body uses. -/
  uses : List String := []
  /-- Names of the functions that the body calls. -/
  calls : List String := []
  /-- Invocations per workgroup, in three dimensions. -/
  workgroupSize : List Nat := [1, 1, 1]

/-- Whether the source of a module is accepted. -/
inductive SourceState where
  | valid
  /-- The text is not a module. -/
  | unparsable
  /-- The module breaks a rule of the language. -/
  | invalid
  deriving DecidableEq

/-- A shader module. -/
structure ShaderModule where
  structs : List StructDecl := []
  globals : List Global := []
  functions : List FunctionDecl := []
  entryPoints : List EntryPoint := []
  source : SourceState := .valid
  /-- Whether globals, arguments and members have kept their names. -/
  named : Bool := true

namespace ShaderModule

/-- The entry point with a given name. -/
def entry? (m : ShaderModule) (name : String) : Option EntryPoint :=
  m.entryPoints.find? fun e => e.name = name

/-- The structure type with a given name. -/
def struct? (m : ShaderModule) (name : String) : Option StructDecl :=
  m.structs.find? fun d => d.name = name

/-- The function with a given name. -/
def function? (m : ShaderModule) (name : String) : Option FunctionDecl :=
  m.functions.find? fun f => f.name = name

end ShaderModule

/-! ## The notation of types -/

namespace ScalarType

/-- The scalar type with a given name. -/
def ofName? : String → Option ScalarType
  | "f16" => some ⟨.float, 2⟩
  | "f32" => some ⟨.float, 4⟩
  | "f64" => some ⟨.float, 8⟩
  | "i32" => some ⟨.sint, 4⟩
  | "i64" => some ⟨.sint, 8⟩
  | "u32" => some ⟨.uint, 4⟩
  | "u64" => some ⟨.uint, 8⟩
  | "bool" => some ⟨.bool, 1⟩
  | _ => none

end ScalarType

namespace ShaderType

/-- A decimal digit as a number. -/
def digit? (c : Char) : Option Nat := if c.isDigit then some (c.toNat - '0'.toNat) else none

/-- The scalar type between angle brackets. -/
def bracketed? (cs : List Char) : Option ScalarType :=
  match cs with
  | '<' :: rest =>
    if rest.getLast? = some '>' then ScalarType.ofName? (String.ofList rest.dropLast) else none
  | _ => none

/-- The type that a text denotes by its form; any other text names a structure. -/
def ofText (text : String) : ShaderType :=
  let fallback := if text = "acceleration_structure" then accelerationStructure else named text
  match ScalarType.ofName? text with
  | some s => scalar s
  | none =>
    match text.toList with
    | 'v' :: 'e' :: 'c' :: n :: rest =>
      match digit? n, bracketed? rest with
      | some size, some s => vector size s
      | _, _ => fallback
    | 'm' :: 'a' :: 't' :: c :: 'x' :: r :: rest =>
      match digit? c, digit? r, bracketed? rest with
      | some columns, some rows, some s => matrix columns rows s
      | _, _, _ => fallback
    | 'a' :: 't' :: 'o' :: 'm' :: 'i' :: 'c' :: rest =>
      match bracketed? rest with
      | some s => atomic s
      | none => fallback
    | _ => fallback

end ShaderType

end PassForge
