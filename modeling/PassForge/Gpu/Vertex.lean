/-!
# Formats of vertex and index data
-/

namespace PassForge

/-- The numeric class of a vertex input's components. -/
inductive NumericKind where
  | float | sint | uint
  deriving DecidableEq

namespace NumericKind

/-- The name of a numeric class. -/
def name : NumericKind → String
  | float => "float"
  | sint => "sint"
  | uint => "uint"

/-- The numeric class with a given name. -/
def ofName? (s : String) : Option NumericKind := [float, sint, uint].find? fun k => k.name = s

end NumericKind

/-- The shape of a vertex input: the class, number and width in bytes of its components. -/
structure InputFormat where
  kind : NumericKind
  components : Nat
  width : Nat
  deriving DecidableEq

/-- The bytes of one input. -/
def InputFormat.byteSize (f : InputFormat) : Nat := f.components * f.width

/-- A format in which a vertex buffer can hold an attribute. -/
inductive VertexFormat where
  | float32 | float32x2 | float32x3 | float32x4
  | float16x2 | float16x4
  | sint32 | sint32x2 | sint32x3 | sint32x4
  | uint32 | uint32x2 | uint32x3 | uint32x4
  deriving DecidableEq

namespace VertexFormat

/-- The name of a vertex format. -/
def name : VertexFormat → String
  | float32 => "float32"
  | float32x2 => "float32x2"
  | float32x3 => "float32x3"
  | float32x4 => "float32x4"
  | float16x2 => "float16x2"
  | float16x4 => "float16x4"
  | sint32 => "sint32"
  | sint32x2 => "sint32x2"
  | sint32x3 => "sint32x3"
  | sint32x4 => "sint32x4"
  | uint32 => "uint32"
  | uint32x2 => "uint32x2"
  | uint32x3 => "uint32x3"
  | uint32x4 => "uint32x4"

/-- The bytes of one attribute. -/
def byteSize : VertexFormat → Nat
  | float32 | sint32 | uint32 | float16x2 => 4
  | float32x2 | sint32x2 | uint32x2 | float16x4 => 8
  | float32x3 | sint32x3 | uint32x3 => 12
  | float32x4 | sint32x4 | uint32x4 => 16

/-- The format that holds inputs of a given shape, if there is one: components of four bytes in any
number up to four, and half precision in pairs. -/
def ofInput? (f : InputFormat) : Option VertexFormat :=
  match f.kind, f.width, f.components with
  | .float, 4, 1 => some float32
  | .float, 4, 2 => some float32x2
  | .float, 4, 3 => some float32x3
  | .float, 4, 4 => some float32x4
  | .float, 2, 2 => some float16x2
  | .float, 2, 4 => some float16x4
  | .sint, 4, 1 => some sint32
  | .sint, 4, 2 => some sint32x2
  | .sint, 4, 3 => some sint32x3
  | .sint, 4, 4 => some sint32x4
  | .uint, 4, 1 => some uint32
  | .uint, 4, 2 => some uint32x2
  | .uint, 4, 3 => some uint32x3
  | .uint, 4, 4 => some uint32x4
  | _, _, _ => none

end VertexFormat

/-- The width of the indices in an index buffer. -/
inductive IndexFormat where
  | uint16 | uint32
  deriving DecidableEq

namespace IndexFormat

/-- The name of an index format. -/
def name : IndexFormat → String
  | uint16 => "uint16"
  | uint32 => "uint32"

/-- The index format with a given name. -/
def ofName? (s : String) : Option IndexFormat := [uint16, uint32].find? fun f => f.name = s

end IndexFormat

/-- One attribute inside the stride of a vertex buffer. -/
structure VertexAttribute where
  format : VertexFormat
  /-- Byte offset from the start of a vertex. -/
  offset : Nat
  /-- The shader location that reads the attribute. -/
  location : Nat
  deriving DecidableEq

/-- How a vertex buffer is laid out. -/
structure VertexBufferLayout where
  /-- Bytes from one vertex to the next. -/
  stride : Nat
  attributes : List VertexAttribute
  deriving DecidableEq

end PassForge
