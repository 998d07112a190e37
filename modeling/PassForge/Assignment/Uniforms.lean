import PassForge.Assignment.Bag
import PassForge.Error

/-!
# Uniforms

A `UniformTable` gives what is bound to each global of a shader. `Bag.uniforms` accepts a bag exactly
if everything in it can be bound.

* `UniformTable.syncedBuffers` and `syncedTextures` are the resources that are brought up to date
  around a pass, each once and by ascending id. A resource counts as what its first name says.
-/

namespace PassForge

/-- The resources bound to the globals of a shader, by name. -/
structure UniformTable where
  assignments : Bag
  deriving DecidableEq

namespace UniformTable

/-- What is assigned to a name, if anything. -/
def assignment? (t : UniformTable) (name : String) : Option Assignment := t.assignments.get? name

/-- Whether a resource is assigned to any name. -/
def mentions (t : UniformTable) (id : ResourceId) : Bool := t.assignments.byResource.contains id

/-- The names of each resource, the resources by id. -/
def byResource (t : UniformTable) : List (ResourceId × List String) :=
  t.assignments.byResource.entries.map fun e => (e.1, e.2.map Prod.fst)

/-- The resources whose first role satisfies a condition. -/
def whoseRole (t : UniformTable) (p : Role → Bool) : List ResourceId :=
  t.assignments.byResource.entries.filterMap fun e =>
    match e.2 with
    | (_, role) :: _ => if p role then some e.1 else none
    | [] => none

/-- The buffers to bring up to date around a pass. -/
def syncedBuffers (t : UniformTable) : List ResourceId := t.whoseRole Role.isBoundBuffer

/-- The textures to bring up to date around a pass. -/
def syncedTextures (t : UniformTable) : List ResourceId := t.whoseRole Role.isTexture

end UniformTable

/-- The uniforms in a bag. The first name whose resource cannot be bound is refused. -/
def Bag.uniforms (b : Bag) : Except CompileError UniformTable :=
  match b.entries.find? fun e => !e.2.role.isBindable with
  | some (name, a) => .error (.unsupportedUniform name a.role)
  | none => .ok ⟨b⟩

end PassForge
