import PassForge.Document.Convert
import PassForge.Options.Basic

/-!
# Reading pass options

`PassOptions.ofDocument` reads the options of a render pass from a document.

* Unknown keys are ignored and missing keys take their defaults.
* A group of options needs a table and a list of options a list; only the options that may be absent
  also accept null.
* An enumeration is read from a scalar. Unknown names are an error, except for culling, blending and
  comparison, which keep them as unrecognized.
* A float is read from any numeral, an integer only from an integer numeral in its range.
-/

namespace PassForge

/-- Why no options could be read. -/
inductive OptionsError where
  /-- The file could not be read. -/
  | unreadable
  /-- The document is not made of options. -/
  | malformed
  deriving DecidableEq

/-- The wording of an error. -/
def OptionsError.message : OptionsError → String
  | .unreadable => "failed to read configuration"
  | .malformed => "failed to parse configuration"

namespace Document

/-- A way to read a value, which gives nothing where the value has no place. -/
abbrev Reading (α : Type) := Document → Option α

/-- Reads a name of any kind. A scalar that is not a text has a name too, which nothing knows. -/
def anyName {α : Type} (ofName : String → α) (unknown : α) : Reading α
  | text s => some (ofName s)
  | d => if d.isScalar then some unknown else none

/-- Reads an integer that is at least `low` and at most `high`. -/
def integerIn (low high : Int) : Reading Int
  | integer i => if low ≤ i ∧ i ≤ high then some i else none
  | _ => none

/-- Reads an integer that a signed word of 32 bits can hold. -/
def signedWord : Reading Int := integerIn Int32.minValue.toInt Int32.maxValue.toInt

/-- Reads null as nothing. -/
def orNull {α : Type} (reading : Reading α) : Reading (Option α)
  | null => some none
  | d => some <$> reading d

/-- Reads a list. -/
def listOf {α : Type} (reading : Reading α) : Reading (List α)
  | list items => items.mapM reading
  | _ => none

/-- Reads the value under a key, or takes the default if there is none. -/
def fieldOr {α : Type} (key : String) (default : α) (reading : Reading α) : Reading α := fun d =>
  match d.field? key with
  | some value => reading value
  | none => some default

/-- Reads a colour: a list of exactly four numerals. -/
def color : Reading Color := fun d => do
  match ← (ofDocument? d : Option (List Binary64)) with
  | [red, green, blue, alpha] => some ⟨red, green, blue, alpha⟩
  | _ => none

end Document

open Document

instance : OfDocument PrimitiveOptions where
  ofDocument? d := do
    let _ ← d.entries?
    return {
      topology := ← d.fieldOr "topology" .triangleList (named? Topology.ofName?)
      cull := ← d.fieldOr "cull" .none (anyName Culling.ofName .unrecognized) }

instance : OfDocument ColorOptions where
  ofDocument? d := do
    let _ ← d.entries?
    let default : ColorOptions := {}
    return {
      blend := ← d.fieldOr "blend" default.blend (anyName Blending.ofName .unrecognized)
      load := ← d.fieldOr "loadStore" default.load (named? LoadMode.ofName?)
      clearColor := ← d.fieldOr "clearColor" default.clearColor Document.color }

instance : OfDocument DepthOptions where
  ofDocument? d := do
    let _ ← d.entries?
    let default : DepthOptions := {}
    let mode := named? LoadMode.ofName?
    let stencilClear ←
      d.fieldOr "stencilClearValue" (default.stencilClear : Int) (integerIn 0 (UInt32.size - 1))
    return {
      depthLoad := ← d.fieldOr "depthLoadStore" default.depthLoad mode
      depthCompare :=
        ← d.fieldOr "depthCompare" default.depthCompare (anyName Comparison.ofName .unrecognized)
      depthClear := ← d.fieldOr "depthClearValue" default.depthClear ofDocument?
      depthReadOnly := ← d.fieldOr "depthReadOnly" default.depthReadOnly ofDocument?
      depthBias := ← d.fieldOr "depthBias" default.depthBias (orNull signedWord)
      depthBiasSlope :=
        ← d.fieldOr "depthBiasSlopeScale" default.depthBiasSlope (orNull ofDocument?)
      stencil := ← d.fieldOr "stencilState" default.stencil (named? StencilPreset.ofName?)
      stencilLoad := ← d.fieldOr "stencilLoadStore" default.stencilLoad mode
      stencilClear := stencilClear.toNat
      stencilReadOnly := ← d.fieldOr "stencilReadOnly" default.stencilReadOnly ofDocument? }

instance : OfDocument PassOptions where
  ofDocument? d := do
    let _ ← d.entries?
    let default : PassOptions := {}
    return {
      primitive := ← d.fieldOr "primitive" default.primitive ofDocument?
      samples := ← d.fieldOr "multisample" default.samples (named? SampleCount.ofName?)
      colors := ← d.fieldOr "colorAttachments" default.colors (listOf ofDocument?)
      depthStencil :=
        ← d.fieldOr "depthStencilAttachment" default.depthStencil (orNull ofDocument?) }

/-- The options of a render pass that a document holds. -/
def PassOptions.ofDocument (d : Document) : Except OptionsError PassOptions :=
  match ofDocument? d with
  | some options => .ok options
  | none => .error .malformed

end PassForge
