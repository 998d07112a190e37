import PassForge.Shader.Module

/-!
# Sizes of shader types

The bytes that a value of a type takes in a buffer, by the layout rules of the shading language.

* A vector of three components is aligned like one of four; a matrix is an array of its columns.
* The elements of an array stand at multiples of their alignment. An array without a length counts
  as one element.
* The members of a structure follow each other, each at the next multiple of its alignment, and the
  end is rounded up to the largest of these alignments. Attributes in the source replace a member's
  own size and alignment; the structure itself, used as a type, is aligned like its members' types.
* Opaque types take no bytes.

`ShaderModule.structExtents` settles the structure types from the innermost outwards, each of them
once a layer, and `ShaderModule.extent` gives the extent of any type of the module.
-/

namespace PassForge

/-- The least multiple of `a` that is at least `n`, for a positive `a`. -/
def roundUp (n a : Nat) : Nat := (n + a - 1) / a * a

/-- The bytes that a type takes and the multiple of bytes that it stands at. -/
structure Extent where
  size : Nat
  align : Nat
  deriving DecidableEq

namespace Extent

/-- The extent of a type that is not stored in buffers. -/
def none : Extent := ⟨0, 1⟩

/-- The extent of a vector: two components are aligned like two, more like four. -/
def vector (size width : Nat) : Extent := ⟨size * width, if size = 2 then 2 * width else 4 * width⟩

/-- Bytes from one array element to the next. -/
def stride (e : Extent) : Nat := roundUp e.size e.align

end Extent

/-- The extent of a type, given the extents of the structure types. -/
def ShaderType.extent (structs : String → Extent) : ShaderType → Extent
  | .scalar s => ⟨s.width, s.width⟩
  | .atomic s => ⟨s.width, s.width⟩
  | .vector size s => .vector size s.width
  | .matrix columns rows s =>
    let column := Extent.vector rows s.width
    ⟨columns * column.align, column.align⟩
  | .named name => structs name
  | .array element length =>
    let e := element.extent structs
    ⟨e.stride * length.getD 1, e.align⟩
  | .bindingArray _ _ => .none
  | .sampler _ => .none
  | .image _ _ => .none
  | .accelerationStructure => .none

/-- The end of the members placed one after the other from `start` on. -/
def placeMembers (extent : ShaderType → Extent) (start : Nat) : List Member → Nat
  | [] => start
  | m :: rest =>
    let e := extent m.type
    let offset := roundUp start (m.align.getD e.align)
    placeMembers extent (offset + m.size.getD e.size) rest

/-- The extent of a structure with the given members. -/
def structExtent (extent : ShaderType → Extent) (members : List Member) : Extent :=
  let placed := members.foldl (fun a m => max a (m.align.getD (extent m.type).align)) 1
  let own := members.foldl (fun a m => max a (extent m.type).align) 1
  ⟨roundUp (placeMembers extent 0 members) placed, own⟩

/-- The extent that a list gives for a structure type. One that is not listed takes no bytes. -/
def extentIn (known : List (String × Extent)) (name : String) : Extent :=
  (known.lookup name).getD .none

namespace ShaderModule

/-- The extents of the structure types, given those of the structures that they contain. -/
def placeStructs (m : ShaderModule) (known : List (String × Extent)) : List (String × Extent) :=
  m.structs.map fun d => (d.name, structExtent (ShaderType.extent (extentIn known)) d.members)

/-- Works out the structure types layer by layer, at most `layers` of them, until none changes. -/
def settleStructs (m : ShaderModule) : Nat → List (String × Extent) → List (String × Extent)
  | 0, known => known
  | layers + 1, known =>
    let next := m.placeStructs known
    if next = known then known else m.settleStructs layers next

/-- The extents of the structure types by name. Structures contain each other in no cycle, so there
are no more layers than structures. -/
def structExtents (m : ShaderModule) : List (String × Extent) :=
  m.settleStructs m.structs.length []

/-- The extent of a type of the module. -/
def extent (m : ShaderModule) (t : ShaderType) : Extent := t.extent (extentIn m.structExtents)

end ShaderModule

end PassForge
