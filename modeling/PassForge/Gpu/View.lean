/-!
# Dimensions and aspects of texture views
-/

namespace PassForge

/-- The shape of the texture data that a view shows to a shader. -/
inductive ViewDimension where
  | d1 | d2 | d2Array | cube | cubeArray | d3
  deriving DecidableEq

namespace ViewDimension

/-- The name of a dimension. -/
def name : ViewDimension → String
  | d1 => "1d"
  | d2 => "2d"
  | d2Array => "2d-array"
  | cube => "cube"
  | cubeArray => "cube-array"
  | d3 => "3d"

/-- Every dimension. -/
def all : List ViewDimension := [d1, d2, d2Array, cube, cubeArray, d3]

/-- The dimension with a given name. -/
def ofName? (s : String) : Option ViewDimension := all.find? fun d => d.name = s

end ViewDimension

/-- The part of a texel that a view shows. -/
inductive Aspect where
  | all | depthOnly | stencilOnly
  deriving DecidableEq

/-- The name of an aspect. -/
def Aspect.name : Aspect → String
  | .all => "all"
  | .depthOnly => "depth-only"
  | .stencilOnly => "stencil-only"

end PassForge
