import PassForge.Assignment.Bag
import PassForge.Error

/-!
# Vertex attributes

An `AttributeTable` gives the vertex buffer that feeds each vertex input. `Bag.attributes` accepts a
bag exactly if everything in it is a vertex buffer.
-/

namespace PassForge

/-- The vertex buffers that feed vertex inputs, by input name. -/
structure AttributeTable where
  assignments : Bag
  deriving DecidableEq

namespace AttributeTable

/-- The buffer that feeds an input, if one is assigned. -/
def buffer? (t : AttributeTable) (name : String) : Option ResourceId :=
  (t.assignments.get? name).map Assignment.resource

/-- The inputs that each buffer feeds, the buffers by id. -/
def byBuffer (t : AttributeTable) : List (ResourceId × List String) :=
  t.assignments.byResource.entries.map fun e => (e.1, e.2.map Prod.fst)

end AttributeTable

/-- The attributes in a bag. The first name that is no vertex buffer is refused. -/
def Bag.attributes (b : Bag) : Except CompileError AttributeTable :=
  match b.entries.find? fun e => e.2.role ≠ .vertexBuffer with
  | some (name, a) => .error (.unsupportedAttribute name a.role)
  | none => .ok ⟨b⟩

end PassForge
