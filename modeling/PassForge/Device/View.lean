import PassForge.Gpu.View

/-!
# Views of device textures
-/

namespace PassForge

/-- A view of a device texture. A view of the surface image leaves its range open. -/
structure View where
  serial : Nat
  /-- The serial of the texture. -/
  texture : Nat
  dimension : Option ViewDimension := none
  aspect : Aspect := .all
  baseMip : Nat := 0
  mips : Option Nat := none
  baseLayer : Nat := 0
  layers : Option Nat := none
  deriving DecidableEq

/-- The part of a texture that a view is made of, before the view exists. -/
structure ViewRange where
  dimension : ViewDimension
  aspect : Aspect := .all
  baseMip : Nat := 0
  mips : Nat
  baseLayer : Nat := 0
  layers : Nat
  deriving DecidableEq

/-- The view of a range of a texture. -/
def ViewRange.view (r : ViewRange) (serial texture : Nat) : View where
  serial := serial
  texture := texture
  dimension := some r.dimension
  aspect := r.aspect
  baseMip := r.baseMip
  mips := some r.mips
  baseLayer := r.baseLayer
  layers := some r.layers

end PassForge
