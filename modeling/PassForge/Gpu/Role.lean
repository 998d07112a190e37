/-!
# Roles of resources

The role of a resource in a set of assignments: what kind of object an id refers to.
-/

namespace PassForge

/-- What a resource is assigned as. -/
inductive Role where
  | vertexBuffer | indexBuffer | uniformBuffer | storageBuffer | indexedStorageBuffer
  | indirectBuffer | indexedIndirectBuffer | mapBuffer
  | texture2D | textureStorage2D | texture2DArray | textureCube | textureSurface
  | textureSampler
  deriving DecidableEq

namespace Role

/-- The name of a role. -/
def name : Role → String
  | vertexBuffer => "vertexBuffer"
  | indexBuffer => "indexBuffer"
  | uniformBuffer => "uniformBuffer"
  | storageBuffer => "storageBuffer"
  | indexedStorageBuffer => "indexedStorageBuffer"
  | indirectBuffer => "indirectBuffer"
  | indexedIndirectBuffer => "indexedIndirectBuffer"
  | mapBuffer => "mapBuffer"
  | texture2D => "texture2D"
  | textureStorage2D => "textureStorage2D"
  | texture2DArray => "texture2DArray"
  | textureCube => "textureCube"
  | textureSurface => "textureSurface"
  | textureSampler => "textureSampler"

/-- Every role. -/
def all : List Role := [
  vertexBuffer, indexBuffer, uniformBuffer, storageBuffer, indexedStorageBuffer, indirectBuffer,
  indexedIndirectBuffer, mapBuffer, texture2D, textureStorage2D, texture2DArray, textureCube,
  textureSurface, textureSampler]

/-- The role with a given name. -/
def ofName? (s : String) : Option Role := all.find? fun r => r.name = s

/-- Whether a storage buffer binding takes a resource of this role. -/
def isStorage : Role → Bool
  | storageBuffer | indexedStorageBuffer | indirectBuffer | indexedIndirectBuffer | mapBuffer =>
    true
  | _ => false

/-- Whether the resource is a buffer that can be bound. -/
def isBoundBuffer (r : Role) : Bool := r = uniformBuffer || r.isStorage

/-- Whether the resource is a texture. -/
def isTexture : Role → Bool
  | texture2D | textureStorage2D | texture2DArray | textureCube | textureSurface => true
  | _ => false

/-- Whether a binding can hold the resource at all. Vertex and index buffers are not bound. -/
def isBindable (r : Role) : Bool := r.isBoundBuffer || r.isTexture || r = textureSampler

end Role

end PassForge
