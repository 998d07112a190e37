import PassForge.Device.View
import PassForge.Gpu.Sampling
import PassForge.Gpu.Usage
import PassForge.Shader.Interface

/-!
# Bind group layouts and bind groups

A layout entry says what a binding takes; a bind group entry says what is bound there.
-/

namespace PassForge

/-- What a binding takes. -/
inductive BindingType where
  /-- A uniform buffer of at least so many bytes. -/
  | uniformBuffer (minSize : Option Nat)
  /-- A storage buffer of at least so many bytes. -/
  | storageBuffer (readOnly : Bool) (minSize : Option Nat)
  | texture (sample : SampleType) (dimension : ViewDimension) (multisampled : Bool)
  | storageTexture (access : StorageAccess) (format : TextureFormat) (dimension : ViewDimension)
  | sampler (kind : SamplerKind)
  deriving DecidableEq

/-- One entry of a bind group layout. -/
structure LayoutEntry where
  binding : Nat
  visibility : Visibility
  type : BindingType
  deriving DecidableEq

/-- What is bound to a binding. -/
inductive BoundResource where
  /-- A range of a buffer; without a size, all from the offset on. -/
  | buffer (serial offset : Nat) (size : Option Nat)
  | view (v : View)
  | sampler (serial : Nat)
  deriving DecidableEq

/-- One entry of a bind group. -/
structure GroupEntry where
  binding : Nat
  resource : BoundResource
  deriving DecidableEq

end PassForge
