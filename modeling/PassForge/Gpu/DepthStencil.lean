import PassForge.Gpu.TextureFormat
import PassForge.Number.Binary

/-!
# Depth and stencil tests
-/

namespace PassForge

/-- How a value is compared with a reference. -/
inductive CompareFunction where
  | never | less | equal | lessEqual | greater | notEqual | greaterEqual | always
  deriving DecidableEq

/-- The name of a compare function. -/
def CompareFunction.name : CompareFunction → String
  | .never => "never"
  | .less => "less"
  | .equal => "equal"
  | .lessEqual => "less-equal"
  | .greater => "greater"
  | .notEqual => "not-equal"
  | .greaterEqual => "greater-equal"
  | .always => "always"

/-- The comparison that a depth attachment or a sampler asks for. -/
inductive Comparison where
  | known (function : CompareFunction)
  /-- An unknown name; its user falls back to a comparison of its own. -/
  | unrecognized
  deriving DecidableEq

namespace Comparison

instance : Inhabited Comparison := ⟨known .lessEqual⟩

/-- The name of a comparison in configurations. -/
def name : Comparison → String
  | known f => f.name
  | unrecognized => "unrecognized"

/-- The name of a comparison in shown values. -/
def title : Comparison → String
  | known .never => "Never"
  | known .less => "Less"
  | known .equal => "Equal"
  | known .lessEqual => "LessEqual"
  | known .greater => "Greater"
  | known .notEqual => "NotEqual"
  | known .greaterEqual => "GreaterEqual"
  | known .always => "Always"
  | unrecognized => "Unrecognized"

/-- The compare function, unless the name was unknown. -/
def function? : Comparison → Option CompareFunction
  | known f => some f
  | unrecognized => none

/-- The comparison with a given name; any other text is unrecognized. -/
def ofName (s : String) : Comparison :=
  let functions : List CompareFunction :=
    [.never, .less, .equal, .lessEqual, .greater, .notEqual, .greaterEqual, .always]
  match functions.find? fun f => f.name = s with
  | some f => known f
  | none => unrecognized

end Comparison

/-- What a stencil test does to the stored value. -/
inductive StencilOperation where
  | keep
  deriving DecidableEq

/-- The name of a stencil operation. -/
def StencilOperation.name : StencilOperation → String
  | .keep => "keep"

/-- The stencil test of one face. -/
structure StencilFace where
  compare : CompareFunction
  fail : StencilOperation
  depthFail : StencilOperation
  pass : StencilOperation
  deriving DecidableEq

/-- The stencil state of a pipeline. -/
structure StencilState where
  front : StencilFace
  back : StencilFace
  readMask : Nat
  writeMask : Nat
  deriving DecidableEq

/-- The stencil behaviours that a configuration can ask for. -/
inductive StencilPreset where
  /-- The test always passes and nothing is changed. -/
  | alwaysKeep
  deriving DecidableEq, Inhabited

namespace StencilPreset

/-- The name of a preset in configurations. -/
def name : StencilPreset → String
  | alwaysKeep => "alwaysKeep"

/-- The name of a preset in shown values. -/
def title : StencilPreset → String
  | alwaysKeep => "AlwaysKeep"

/-- The preset with a given name. -/
def ofName? (s : String) : Option StencilPreset := [alwaysKeep].find? fun p => p.name = s

/-- The stencil state of a preset. -/
def state : StencilPreset → StencilState
  | alwaysKeep =>
    let face : StencilFace := ⟨.always, .keep, .keep, .keep⟩
    ⟨face, face, 0, 0⟩

end StencilPreset

/-- The depth-stencil state of a pipeline. -/
structure DepthStencilState where
  format : TextureFormat
  /-- Whether passing fragments replace the stored depth. -/
  depthWrite : Bool
  depthCompare : CompareFunction
  stencil : StencilState
  bias : Int
  biasSlope : Binary32
  biasClamp : Binary32
  deriving DecidableEq

end PassForge
