/-!
# Usages of buffers and textures, and the stages that see a binding

Each is a set of flags, given as one truth value per flag. `union` joins two sets, `contains` asks
whether one includes the other, and `names` lists the flags of a set in their fixed order.
-/

namespace PassForge

/-- What a device buffer may be used for. -/
structure BufferUsage where
  mapRead : Bool := false
  copySource : Bool := false
  copyTarget : Bool := false
  index : Bool := false
  vertex : Bool := false
  uniform : Bool := false
  storage : Bool := false
  indirect : Bool := false
  deriving DecidableEq

/-- The names of the flags that are set. -/
def BufferUsage.names (u : BufferUsage) : List String :=
  [(u.mapRead, "MAP_READ"), (u.copySource, "COPY_SRC"), (u.copyTarget, "COPY_DST"),
    (u.index, "INDEX"), (u.vertex, "VERTEX"), (u.uniform, "UNIFORM"), (u.storage, "STORAGE"),
    (u.indirect, "INDIRECT")].filterMap fun p => if p.1 then some p.2 else none

/-- What a device texture may be used for. -/
structure TextureUsage where
  copySource : Bool := false
  copyTarget : Bool := false
  textureBinding : Bool := false
  storageBinding : Bool := false
  renderAttachment : Bool := false
  storageAtomic : Bool := false
  deriving DecidableEq

namespace TextureUsage

/-- The names of the flags that are set. -/
def names (u : TextureUsage) : List String :=
  [(u.copySource, "COPY_SRC"), (u.copyTarget, "COPY_DST"), (u.textureBinding, "TEXTURE_BINDING"),
    (u.storageBinding, "STORAGE_BINDING"), (u.renderAttachment, "RENDER_ATTACHMENT"),
    (u.storageAtomic, "STORAGE_ATOMIC")].filterMap fun p => if p.1 then some p.2 else none

/-- The flag with a given name, alone. -/
def ofName? : String → Option TextureUsage
  | "COPY_SRC" => some { copySource := true }
  | "COPY_DST" => some { copyTarget := true }
  | "TEXTURE_BINDING" => some { textureBinding := true }
  | "STORAGE_BINDING" => some { storageBinding := true }
  | "RENDER_ATTACHMENT" => some { renderAttachment := true }
  | "STORAGE_ATOMIC" => some { storageAtomic := true }
  | _ => none

/-- The flags of either set. -/
def union (a b : TextureUsage) : TextureUsage where
  copySource := a.copySource || b.copySource
  copyTarget := a.copyTarget || b.copyTarget
  textureBinding := a.textureBinding || b.textureBinding
  storageBinding := a.storageBinding || b.storageBinding
  renderAttachment := a.renderAttachment || b.renderAttachment
  storageAtomic := a.storageAtomic || b.storageAtomic

/-- Whether every flag of `b` is one of `a`. -/
def contains (a b : TextureUsage) : Bool := a.union b = a

/-- The shown text of a set of flags. -/
def text (u : TextureUsage) : String :=
  if u.names.isEmpty then "TextureUsages(0x0)"
  else "TextureUsages(" ++ " | ".intercalate u.names ++ ")"

end TextureUsage

/-- The stages of a pipeline that see a binding. -/
structure Visibility where
  vertex : Bool := false
  fragment : Bool := false
  compute : Bool := false
  deriving DecidableEq

namespace Visibility

/-- The stages of either set. -/
def union (a b : Visibility) : Visibility where
  vertex := a.vertex || b.vertex
  fragment := a.fragment || b.fragment
  compute := a.compute || b.compute

/-- The names of the stages in the set. -/
def names (v : Visibility) : List String :=
  [(v.vertex, "VERTEX"), (v.fragment, "FRAGMENT"), (v.compute, "COMPUTE")].filterMap
    fun p => if p.1 then some p.2 else none

end Visibility

end PassForge
