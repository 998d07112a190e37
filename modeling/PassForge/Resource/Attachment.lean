import PassForge.Resource.Texture

/-!
# Attachments

An attachment is a texture that a pass renders into, named by its id, with the options of that use.

* `ColorAttachment.target` and `DepthAttachment.state` are what a pipeline needs to know.
* `DepthAttachment.create` refuses formats without depth and stencil.
-/

namespace PassForge

/-- What a colour attachment is created from. -/
structure ColorAttachmentDesc where
  /-- An id to take; an attachment that is already registered under it is used instead. -/
  id : Option ResourceId := none
  texture : ResourceId
  /-- The layer that is rendered into. -/
  layer : Nat := 0
  /-- The texture that samples are resolved into. -/
  resolve : Option ResourceId := none
  options : ColorOptions := {}

/-- A texture that a pass renders colours into. -/
structure ColorAttachment where
  id : ResourceId
  texture : ResourceId
  layer : Nat
  resolve : Option ResourceId
  options : ColorOptions
  deriving DecidableEq

namespace ColorAttachment

/-- The attachment with the given id that a description asks for. -/
def create (desc : ColorAttachmentDesc) (id : ResourceId) : ColorAttachment where
  id := id
  texture := desc.texture
  layer := desc.layer
  resolve := desc.resolve
  options := desc.options

/-- The colour target of a pipeline that renders into the attachment. -/
def target (a : ColorAttachment) (t : Texture) : ColorTarget where
  format := t.format
  blend := a.options.blend.state?

/-- The shown text of an attachment. -/
def text (a : ColorAttachment) : String :=
  Text.fields "ColorAttachment" [
    ("id", a.id.text), ("texture", a.texture.text), ("layer", toString a.layer),
    ("options", a.options.text)]

end ColorAttachment

/-- What a depth-stencil attachment is created from. -/
structure DepthAttachmentDesc where
  /-- An id to take; an attachment that is already registered under it is used instead. -/
  id : Option ResourceId := none
  texture : ResourceId
  options : DepthOptions := {}

/-- A texture that a pass tests depth and stencil against. -/
structure DepthAttachment where
  id : ResourceId
  texture : ResourceId
  options : DepthOptions
  deriving DecidableEq

namespace DepthAttachment

/-- The attachment with the given id that a description asks for, on a texture. -/
def create (t : Texture) (desc : DepthAttachmentDesc) (id : ResourceId) :
    Except ResourceError DepthAttachment :=
  if t.format.isDepthStencil then
    .ok { id := id, texture := desc.texture, options := desc.options }
  else .error (.notDepthStencil t.id t.format)

/-- The depth-stencil state of a pipeline that renders into the attachment. A test that never passes
writes no depth; an unknown comparison is taken as less-or-equal, with writes. -/
def state (a : DepthAttachment) (t : Texture) : DepthStencilState :=
  let (compare, write) : CompareFunction × Bool :=
    match a.options.depthCompare with
    | .known .never => (.never, false)
    | .known f => (f, !a.options.depthReadOnly)
    | .unrecognized => (.lessEqual, true)
  { format := t.format
    depthWrite := write
    depthCompare := compare
    stencil := a.options.stencil.state
    bias := a.options.depthBias.getD 0
    biasSlope := a.options.depthBiasSlope.getD (.ofNat 0)
    biasClamp := .ofNat 0 }

/-- What a pass starts the depth aspect from, unless it is absent or read only. -/
def depthOp (a : DepthAttachment) (t : Texture) : Option (LoadOp Binary32) :=
  if t.format.hasDepth && !a.options.depthReadOnly then
    some (a.options.depthLoad.op a.options.depthClear)
  else none

/-- What a pass starts the stencil aspect from, unless it is absent or read only. -/
def stencilOp (a : DepthAttachment) (t : Texture) : Option (LoadOp Nat) :=
  if t.format.hasStencil && !a.options.stencilReadOnly then
    some (a.options.stencilLoad.op a.options.stencilClear)
  else none

/-- The shown text of an attachment. -/
def text (a : DepthAttachment) : String :=
  Text.fields "DepthStencilAttachment" [
    ("id", a.id.text), ("texture", a.texture.text), ("options", a.options.text)]

end DepthAttachment

end PassForge
