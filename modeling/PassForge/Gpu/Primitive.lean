import PassForge.Gpu.Vertex

/-!
# Primitive assembly

The topology of a pipeline's primitives and the faces it culls, and the primitive state that follows
from both. A strip is cut by a marker of the index format, so only strip topologies carry one.
-/

namespace PassForge

/-- How vertices form primitives. -/
inductive Topology where
  | pointList | lineList | lineStrip | triangleList | triangleStrip
  deriving DecidableEq

namespace Topology

instance : Inhabited Topology := ⟨triangleList⟩

/-- The name of a topology. -/
def name : Topology → String
  | pointList => "point-list"
  | lineList => "line-list"
  | lineStrip => "line-strip"
  | triangleList => "triangle-list"
  | triangleStrip => "triangle-strip"

/-- Every topology. -/
def all : List Topology := [pointList, lineList, lineStrip, triangleList, triangleStrip]

/-- The topology with a given name. -/
def ofName? (s : String) : Option Topology := all.find? fun t => t.name = s

/-- Whether neighbouring primitives share vertices. -/
def isStrip : Topology → Bool
  | lineStrip | triangleStrip => true
  | _ => false

end Topology

/-- The winding of front faces. -/
inductive FrontFace where
  | counterClockwise | clockwise
  deriving DecidableEq

/-- The name of a winding. -/
def FrontFace.name : FrontFace → String
  | .counterClockwise => "ccw"
  | .clockwise => "cw"

/-- A side of a primitive. -/
inductive Face where
  | front | back
  deriving DecidableEq

/-- The name of a side. -/
def Face.name : Face → String
  | .front => "front"
  | .back => "back"

/-- Which faces are culled, with the winding that makes a face a front face. An unknown name culls
nothing. -/
inductive Culling where
  | none | frontCcw | frontCw | backCcw | backCw | unrecognized
  deriving DecidableEq

namespace Culling

instance : Inhabited Culling := ⟨none⟩

/-- The name of a culling mode. -/
def name : Culling → String
  | none => "none"
  | frontCcw => "frontCCW"
  | frontCw => "frontCW"
  | backCcw => "backCCW"
  | backCw => "backCW"
  | unrecognized => "Unrecognized"

/-- The culling mode with a given name; any other text is unrecognized. -/
def ofName (s : String) : Culling :=
  ([none, frontCcw, frontCw, backCcw, backCw].find? fun c => c.name = s).getD unrecognized

/-- The winding of front faces. -/
def frontFace : Culling → FrontFace
  | frontCw | backCw => .clockwise
  | _ => .counterClockwise

/-- The face that is culled. -/
def face? : Culling → Option Face
  | frontCcw | frontCw => some .front
  | backCcw | backCw => some .back
  | _ => Option.none

end Culling

/-- Topology and culling of a pipeline. -/
structure PrimitiveOptions where
  topology : Topology := .triangleList
  cull : Culling := .none
  deriving DecidableEq, Inhabited

/-- The primitive state of a pipeline. -/
structure PrimitiveState where
  topology : Topology
  stripIndexFormat : Option IndexFormat
  frontFace : FrontFace
  cullFace : Option Face
  deriving DecidableEq

/-- The primitive state for some options and the index format of the draw, if it is indexed. -/
def PrimitiveOptions.state (o : PrimitiveOptions) (index : Option IndexFormat) :
    PrimitiveState where
  topology := o.topology
  stripIndexFormat := if o.topology.isStrip then index else none
  frontFace := o.cull.frontFace
  cullFace := o.cull.face?

end PassForge
