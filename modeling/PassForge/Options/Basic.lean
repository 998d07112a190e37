import PassForge.Gpu.Blend
import PassForge.Gpu.DepthStencil
import PassForge.Gpu.Primitive
import PassForge.Gpu.Samples
import PassForge.Text.Structure

/-!
# Options of a render pass

The fixed-function state that a render pass asks for: its primitives, its samples per pixel and how
each attachment is cleared, tested and blended. Every option has a default.
-/

namespace PassForge

/-- What a pass does with the earlier contents of an attachment. The new contents are always
stored. -/
inductive LoadMode where
  /-- They are cleared. -/
  | clear
  /-- They are kept. -/
  | load
  deriving DecidableEq

namespace LoadMode

/-- The name of a load mode in configurations. -/
def name : LoadMode → String
  | clear => "clearStore"
  | load => "loadStore"

/-- The name of a load mode in shown values. -/
def title : LoadMode → String
  | clear => "ClearStore"
  | load => "LoadStore"

/-- The load mode with a given name. -/
def ofName? (s : String) : Option LoadMode := [clear, load].find? fun m => m.name = s

end LoadMode

/-- An RGBA colour. -/
structure Color where
  red : Binary64
  green : Binary64
  blue : Binary64
  alpha : Binary64
  deriving DecidableEq

namespace Color

/-- The components of a colour. -/
def components (c : Color) : List Binary64 := [c.red, c.green, c.blue, c.alpha]

/-- Opaque black. -/
def black : Color := ⟨.ofNat 0, .ofNat 0, .ofNat 0, .ofNat 1⟩

end Color

/-- Options of a colour attachment. -/
structure ColorOptions where
  blend : Blending := .opaqueSource
  load : LoadMode := .clear
  /-- The colour that a clearing pass starts from. -/
  clearColor : Color := .black
  deriving DecidableEq, Inhabited

/-- Options of a depth-stencil attachment. -/
structure DepthOptions where
  depthLoad : LoadMode := .clear
  depthCompare : Comparison := .known .lessEqual
  depthClear : Binary32 := .ofNat 1
  /-- Whether the pass leaves the depth aspect untouched. -/
  depthReadOnly : Bool := false
  depthBias : Option Int := none
  depthBiasSlope : Option Binary32 := none
  stencil : StencilPreset := .alwaysKeep
  stencilLoad : LoadMode := .load
  stencilClear : Nat := 1
  /-- Whether the pass leaves the stencil aspect untouched. -/
  stencilReadOnly : Bool := false
  deriving DecidableEq, Inhabited

/-- Options of a render pass. -/
structure PassOptions where
  primitive : PrimitiveOptions := {}
  samples : SampleCount := .x1
  /-- Options of the colour attachments, in the order of the attachments. -/
  colors : List ColorOptions := []
  depthStencil : Option DepthOptions := none
  deriving DecidableEq, Inhabited

/-- The options of the colour attachment at an index; past the end, the defaults. -/
def PassOptions.color (o : PassOptions) (index : Nat) : ColorOptions := o.colors[index]?.getD {}

/-- The shown text of the options of a colour attachment. -/
def ColorOptions.text (o : ColorOptions) : String :=
  Text.fields "ColorAttachmentOptions" [
    ("blend", o.blend.title),
    ("load_store", o.load.title),
    ("clear_color", Text.list (o.clearColor.components.map Binary64.text))]

/-- The shown text of the options of a depth-stencil attachment. -/
def DepthOptions.text (o : DepthOptions) : String :=
  Text.fields "DepthStencilOptions" [
    ("depth_load_store", o.depthLoad.title),
    ("depth_compare", o.depthCompare.title),
    ("depth_clear_value", o.depthClear.text),
    ("depth_read_only", Text.bool o.depthReadOnly),
    ("depth_bias", Text.option (o.depthBias.map toString)),
    ("depth_bias_slope_scale", Text.option (o.depthBiasSlope.map Binary32.text)),
    ("stencil_state", o.stencil.title),
    ("stencil_load_store", o.stencilLoad.title),
    ("stencil_clear_value", toString o.stencilClear),
    ("stencil_read_only", Text.bool o.stencilReadOnly)]

end PassForge
