import PassForge.Document.Convert
import PassForge.Shader.Interface

/-!
# Reading shader modules and interfaces

Documents that describe a shader module, or the interface of an entry point.

* A type is a text, or a table whose first key says what it is.
* A value of an entry point is passed at its `location` if it has one, else as a `builtin`, else by
  the members of its type.
* A workgroup has one invocation in each dimension that is not given.
* Missing lists are empty, a missing size is none and missing flags are false.
* `ShaderModule.ofSource` is what becomes of a module that is given as a text, which names nothing by a
  word that the shading language keeps for itself.
-/

namespace PassForge

open Document (named?)

/-! ## Types -/

instance : OfDocument ImageShape where
  ofDocument? := named? fun
    | "1d" => some .d1
    | "1d-array" => some .d1Array
    | "2d" => some .d2
    | "2d-array" => some .d2Array
    | "3d" => some .d3
    | "cube" => some .cube
    | "cube-array" => some .cubeArray
    | _ => none

/-- Atomic access includes loading and storing. -/
instance : OfDocument TexelAccess where
  ofDocument? := named? fun
    | "read" => some ⟨true, false⟩
    | "write" => some ⟨false, true⟩
    | "read_write" | "atomic" => some ⟨true, true⟩
    | _ => none

/-- The class of a sampled texture with values of a given name. -/
def ImageClass.sampledAs? (multisampled : Bool) : String → Option ImageClass
  | "float" => some (.sampled .float multisampled)
  | "sint" => some (.sampled .sint multisampled)
  | "uint" => some (.sampled .uint multisampled)
  | "bool" => some (.sampled .bool multisampled)
  | "depth" => some (.depth multisampled)
  | _ => none

/-- The type that a table without element types describes. -/
def ShaderType.ofLeaf? (d : Document) : Option ShaderType :=
  match d.field? "sampler", d.field? "texture", d.field? "storage_texture" with
  | some kind, _, _ => (kind.text?).map fun k => .sampler (k = "comparison")
  | none, some shape, _ => do
    let multisampled ← d.readOr "multisampled" false
    let sample : String ← d.read? "sample"
    return .image (← ofDocument? shape) (← ImageClass.sampledAs? multisampled sample)
  | none, none, some shape => do
    return .image (← ofDocument? shape) (.storage (← d.read? "format") (← d.read? "access"))
  | none, none, none => none

/-- The type that a document describes. -/
def ShaderType.ofDocument? (d : Document) : Option ShaderType :=
  match d with
  | .text s => some (.ofText s)
  | d =>
    match h : d.field? "array" with
    | some element => do
      return .array (← ShaderType.ofDocument? element) (← d.readOption? "len")
    | none =>
      match h : d.field? "binding_array" with
      | some element => do
        return .bindingArray (← ShaderType.ofDocument? element) (← d.readOption? "len")
      | none => ShaderType.ofLeaf? d
termination_by sizeOf d
decreasing_by all_goals exact Document.sizeOf_lt_of_field? h

instance : OfDocument ShaderType := ⟨ShaderType.ofDocument?⟩

/-! ## Modules -/

/-- How a value of an entry point is passed. -/
instance : OfDocument Passing where
  ofDocument? d :=
    match d.given? "location", d.given? "builtin" with
    | some n, _ => Passing.location <$> ofDocument? n
    | none, some _ => some .builtin
    | none, none => some .members

instance : OfDocument Member where
  ofDocument? d := do
    return {
      name := ← d.read? "name"
      type := ← d.read? "type"
      align := ← d.readOption? "align"
      size := ← d.readOption? "size"
      passing := ← ofDocument? d }

instance : OfDocument StructDecl where
  ofDocument? d := do return ⟨← d.read? "name", ← d.readOr "members" []⟩

instance : OfDocument AddressSpace where
  ofDocument? := named? fun
    | "uniform" => some .uniform
    | "storage" => some (.storage false)
    | "storage_rw" => some (.storage true)
    | "handle" => some .handle
    | "private" => some .invocation
    | "workgroup" => some .workgroup
    | "push_constant" => some .pushConstant
    | _ => none

/-- The slot of a global, which has one if it has a group. -/
def Slot.ofDocument? (d : Document) : Option (Option Slot) := do
  match ← d.readOption? "group" with
  | some group => return some ⟨group, ← d.readOr "binding" 0⟩
  | none => return none

instance : OfDocument Global where
  ofDocument? d := do
    return {
      name := ← d.read? "name"
      space := ← d.read? "space"
      type := ← d.read? "type"
      slot := ← Slot.ofDocument? d }

instance : OfDocument FunctionDecl where
  ofDocument? d := do
    return ⟨← d.read? "name", ← d.readOr "uses" [], ← d.readOr "calls" []⟩

instance : OfDocument Stage := ⟨named? Stage.ofName?⟩

instance : OfDocument EntryStage where
  ofDocument? := named? fun
    | "task" => some .task
    | "mesh" => some .mesh
    | s => EntryStage.pipeline <$> Stage.ofName? s

instance : OfDocument Argument where
  ofDocument? d := do return ⟨← d.read? "name", ← d.read? "type", ← ofDocument? d⟩

instance : OfDocument Output where
  ofDocument? d := do return ⟨← d.read? "type", ← ofDocument? d⟩

instance : OfDocument EntryPoint where
  ofDocument? d := do
    let size : List Nat ← d.readOr "workgroup_size" []
    return {
      name := ← d.read? "name"
      stage := ← d.read? "stage"
      arguments := ← d.readOr "args" []
      result := ← d.readOption? "result"
      uses := ← d.readOr "uses" []
      calls := ← d.readOr "calls" []
      workgroupSize := (size ++ [1, 1, 1]).take 3 }

instance : OfDocument SourceState where
  ofDocument? := named? fun
    | "parse" => some .unparsable
    | "validation" => some .invalid
    | _ => none

instance : OfDocument ShaderModule where
  ofDocument? d := do
    return {
      structs := ← d.readOr "structs" []
      globals := ← d.readOr "globals" []
      functions := ← d.readOr "functions" []
      entryPoints := ← d.readOr "entry_points" []
      source := ← d.readOr "broken" .valid
      named := !(← d.readOr "anonymous" false) }

/-! ## Texts -/

/-- The words of the shading language that are not names: its keywords and those that it reserves. -/
def reservedWords : List String := [
  "alias", "break", "case", "const", "const_assert", "continue", "continuing", "default",
  "diagnostic", "discard", "else", "enable", "false", "fn", "for", "if", "let", "loop", "override",
  "requires", "return", "struct", "switch", "true", "var", "while", "NULL", "Self", "abstract",
  "active", "alignas", "alignof", "as", "asm", "asm_fragment", "async", "attribute", "auto",
  "await", "become", "cast", "catch", "class", "co_await", "co_return", "co_yield", "coherent",
  "column_major", "common", "compile", "compile_fragment", "concept", "const_cast", "consteval",
  "constexpr", "constinit", "crate", "debugger", "decltype", "delete", "demote", "demote_to_helper",
  "do", "dynamic_cast", "enum", "explicit", "export", "extends", "extern", "external",
  "fallthrough", "filter", "final", "finally", "friend", "from", "fxgroup", "get", "goto",
  "groupshared", "highp", "impl", "implements", "import", "inline", "instanceof", "interface",
  "layout", "lowp", "macro", "macro_rules", "match", "mediump", "meta", "mod", "module", "move",
  "mut", "mutable", "namespace", "new", "nil", "noexcept", "noinline", "nointerpolation",
  "non_coherent", "noncoherent", "noperspective", "null", "nullptr", "of", "operator", "package",
  "packoffset", "partial", "pass", "patch", "pixelfragment", "precise", "precision", "premerge",
  "priv", "protected", "pub", "public", "readonly", "ref", "regardless", "register",
  "reinterpret_cast", "require", "resource", "restrict", "self", "set", "shared", "sizeof",
  "smooth", "snorm", "static", "static_assert", "static_cast", "std", "subroutine", "super",
  "target", "template", "this", "thread_local", "throw", "trait", "try", "type", "typedef",
  "typeid", "typename", "typeof", "union", "unless", "unorm", "unsafe", "unsized", "use", "using",
  "varying", "virtual", "volatile", "wgsl", "where", "with", "writeonly", "yield"]

/-- Whether a word can be a name. -/
def isName (s : String) : Bool := !(reservedWords.contains s || s = "_" || s.startsWith "__")

/-- The names that a module declares. -/
def ShaderModule.declaredNames (m : ShaderModule) : List String :=
  m.structs.flatMap (fun d => d.name :: d.members.map Member.name) ++ m.globals.map Global.name
    ++ m.functions.map FunctionDecl.name
    ++ m.entryPoints.flatMap fun e => e.name :: e.arguments.map Argument.name

/-- A module that is given as a text. A text that declares something by another word is no module. -/
def ShaderModule.ofSource (m : ShaderModule) : ShaderModule :=
  if m.declaredNames.all isName then m else { m with source := .unparsable }

/-! ## Interfaces -/

instance : OfDocument ViewDimension := ⟨named? ViewDimension.ofName?⟩

instance : OfDocument SampleKind := ⟨named? SampleKind.ofName?⟩

instance : OfDocument StorageAccess := ⟨named? StorageAccess.ofName?⟩

instance : OfDocument NumericKind := ⟨named? NumericKind.ofName?⟩

instance : OfDocument ResourceKind where
  ofDocument? d := do
    match (← d.read? "type" : String) with
    | "uniformBuffer" => return .uniformBuffer
    | "storageBuffer" => return .storageBuffer (← d.readOr "read_only" false)
    | "texture" =>
      return .texture (← d.read? "dimension") (← d.read? "sample") (← d.readOr "multisampled" false)
    | "storageTexture" =>
      return .storageTexture (← d.read? "dimension") (← d.read? "access") (← d.read? "format")
    | "sampler" => return .sampler (← d.readOr "comparison" false)
    | _ => none

instance : OfDocument ShaderBinding where
  ofDocument? d := do
    return {
      name := ← d.read? "name"
      group := ← d.read? "group"
      binding := ← d.read? "binding"
      kind := ← d.read? "kind"
      size := ← d.readOption? "size" }

instance : OfDocument InputFormat where
  ofDocument? d := do return ⟨← d.read? "kind", ← d.read? "components", ← d.read? "width"⟩

instance : OfDocument VertexInput where
  ofDocument? d := do return ⟨← d.read? "name", ← d.read? "location", ← d.read? "format"⟩

instance : OfDocument ColorOutput where
  ofDocument? d := do return ⟨← d.read? "location", ← d.readOr "components" 0⟩

instance : OfDocument ShaderInterface where
  ofDocument? d := do
    return {
      entryPoint := ← d.readOr "entry_point" ""
      stage := ← d.read? "stage"
      bindings := ← d.readOr "bindings" []
      vertexInputs := ← d.readOr "vertex_inputs" []
      colorOutputs := ← d.readOr "color_outputs" []
      workgroupSize := ← d.readOr "workgroup_size" [0, 0, 0] }

end PassForge
