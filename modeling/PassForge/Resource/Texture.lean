import PassForge.Assignment.Bag
import PassForge.Resource.Action
import PassForge.Resource.Handler
import PassForge.Text.Structure

/-!
# Textures

A `Texture` is checked against the device limits when it is created, and gets its device texture and
its views on first use. At any time it has one *mode*, which says what its view is used for:

* `useAsTarget` selects rendering into one layer, `useAsSampled` sampling all mips and layers, and
  `useAsStorage` storage access to one mip at a time.
* `view` is the view of the selected mode. In storage mode it is the view of the mip that the
  *cursor* points at; with auto-advance on, each such read moves the cursor to the next mip.
* `pointCursor` and `advanceCursor` move the cursor, always modulo the number of mips.

A surface texture stands for the surface image of the current frame and keeps no device objects.
-/

namespace PassForge

/-- The shape of a texture. -/
inductive TextureKind where
  | d2
  /-- Two-dimensional, and usable as a storage texture. -/
  | storage2d
  | d2Array
  | cube
  /-- The surface image of each frame. -/
  | surface
  deriving DecidableEq

namespace TextureKind

/-- The name of a kind in shown values. -/
def title : TextureKind → String
  | d2 => "D2"
  | storage2d => "Storage2D"
  | d2Array => "D2Array"
  | cube => "Cube"
  | surface => "Surface"

/-- The role in which a texture is assigned. -/
def role : TextureKind → Role
  | d2 => .texture2D
  | storage2d => .textureStorage2D
  | d2Array => .texture2DArray
  | cube => .textureCube
  | surface => .textureSurface

/-- The dimension of a view of the whole texture. -/
def sampledDimension : TextureKind → ViewDimension
  | d2 | storage2d | surface => .d2
  | d2Array => .d2Array
  | cube => .cube

/-- The dimension of a storage view. A cube is stored as an array of faces. -/
def storageDimension : TextureKind → ViewDimension
  | d2 | storage2d | surface => .d2
  | d2Array | cube => .d2Array

end TextureKind

/-- What the view of a texture is used for at the moment. -/
inductive TextureMode where
  /-- Nothing has been selected yet. -/
  | none
  | target
  | sampled
  | storage
  deriving DecidableEq

/-- The name of a mode in shown values. -/
def TextureMode.title : TextureMode → String
  | .none => "None"
  | .target => "RenderAttachment"
  | .sampled => "TextureBinding"
  | .storage => "StorageBinding"

/-- Texels to put into one mip level of one layer. -/
structure TextureWrite where
  layer : Nat
  mip : Nat
  data : Array UInt8
  deriving DecidableEq

/-- What a texture is created from. -/
structure TextureDesc where
  /-- An id to take; a texture that is already registered under it is used instead. -/
  id : Option ResourceId := none
  label : Option String := none
  width : Nat
  height : Nat
  /-- The format; without one, that of the surface. -/
  format : Option TextureFormat := none
  /-- The number of mips; without one, as many as possible. -/
  mips : Option Nat := none
  samples : Nat := 1
  /-- Usages in addition to those that the kind and the format imply. -/
  usage : TextureUsage := {}
  /-- Contents of the first mip, one entry per layer, written when the device texture is created. -/
  contents : List (Array UInt8) := []
  handler : Option (Handler TextureWrite) := none

/-- A texture. -/
structure Texture where
  id : ResourceId
  label : Option String
  kind : TextureKind
  format : TextureFormat
  width : Nat
  height : Nat
  layers : Nat
  mips : Nat
  samples : Nat
  usage : TextureUsage
  /-- The initial contents, until the device texture is created. -/
  contents : List (Array UInt8) := []
  handler : Option (Handler TextureWrite) := none
  /-- The serial of the device texture, once there is one. -/
  device : Option Nat := none
  mode : TextureMode := .none
  /-- The layer selected for rendering. -/
  targetLayer : Nat := 0
  /-- The views for rendering made so far, by layer. -/
  targetViews : List (Nat × View) := []
  /-- The view for sampling, once it is made. -/
  sampledView : Option View := none
  /-- The views for storage access by mip, once they are made. -/
  storageViews : Option (List View) := none
  cursor : Nat := 0
  autoAdvance : Bool := false

/-- The largest number of mips that a texture of the given size may ask for. -/
def maxMipLevels (width height : Nat) : Nat := max (max (max width height) 1).log2 1

namespace Texture

/-! ## Creation -/

/-- The usages that a texture of the given kind and format has in any case. -/
def impliedUsage (kind : TextureKind) (format : TextureFormat) : TextureUsage where
  copyTarget := true
  textureBinding := true
  storageBinding := kind = .storage2d
  copySource := kind = .storage2d
  renderAttachment := format.isDepthStencil

/-- The number of mips for a size and a request. A depth-stencil or multisampled texture has one. -/
def mipCount (id : ResourceId) (desc : TextureDesc) (format : TextureFormat) :
    Except ResourceError Nat :=
  let most := maxMipLevels desc.width desc.height
  let requested := desc.mips.getD most
  if most < requested then .error (.tooManyMipLevels id requested most)
  else if format.isDepthStencil ∨ 1 < desc.samples then .ok 1
  else .ok (max requested 1)

/-- The texture with the given id, kind and number of layers that a description asks for. -/
def create (limits : Limits) (surfaceFormat : TextureFormat) (kind : TextureKind) (layers : Nat)
    (desc : TextureDesc) (id : ResourceId) : Except ResourceError Texture := do
  let side := max desc.width desc.height
  if desc.width = 0 ∨ desc.height = 0 then throw (.zeroSize "texture" id)
  if limits.maxTextureDimension < side then
    throw (.limitExceeded "texture dimension" side limits.maxTextureDimension)
  if limits.maxTextureArrayLayers < layers then
    throw (.limitExceeded "texture array layers" layers limits.maxTextureArrayLayers)
  let format := desc.format.getD surfaceFormat
  let mips ← mipCount id desc format
  if desc.contents ≠ [] ∧ desc.contents.length ≠ layers then
    throw (.layerCountMismatch id layers desc.contents.length)
  return {
    id := id
    label := desc.label
    kind := kind
    format := format
    width := desc.width
    height := desc.height
    layers := layers
    mips := mips
    samples := desc.samples
    usage := desc.usage.union (impliedUsage kind format)
    contents := desc.contents
    handler := desc.handler }

/-- The texture that stands for the surface of a device. -/
def ofSurface (d : Device) (id : ResourceId) : Texture where
  id := id
  label := some "surface"
  kind := .surface
  format := d.surfaceFormat
  width := d.viewport.1
  height := d.viewport.2
  layers := 1
  mips := 1
  samples := 1
  usage := { copyTarget := true, renderAttachment := true, textureBinding := true }

/-! ## Facts -/

/-- Width and height of a mip level, each at least 1. -/
def mipExtent (t : Texture) (level : Nat) : Nat × Nat :=
  (max (t.width >>> level) 1, max (t.height >>> level) 1)

/-- Fails unless a texture has a mip level. -/
def requireMip (t : Texture) (level : Nat) : Except ResourceError Unit :=
  if t.mips ≤ level then .error (.mipLevelOutOfRange t.id level) else .ok ()

/-- The class of values that a shader samples from the texture. -/
def sampleType (t : Texture) : SampleType := t.format.info.sample

/-- The aspect that is sampled: depth before stencil, and everything of a colour format. -/
def sampledAspect (t : Texture) : Aspect :=
  if t.format.hasDepth then .depthOnly
  else if t.format.hasStencil then .stencilOnly
  else .all

/-- The device texture as it is asked for. -/
def request (t : Texture) : TextureRequest where
  label := t.label
  format := t.format
  width := t.width
  height := t.height
  layers := t.layers
  mips := t.mips
  samples := t.samples
  usage := t.usage

/-- The write of a whole mip level of one layer. Rows are rows of blocks. -/
def levelWrite (t : Texture) (layer mip : Nat) (data : Array UInt8) : LevelWrite :=
  let (width, height) := t.mipExtent mip
  let (blockWidth, blockHeight) := t.format.info.block
  { mip := mip
    layer := layer
    width := width
    height := height
    data := data
    bytesPerRow := (width + blockWidth - 1) / blockWidth * t.format.info.copySize.getD 4
    rows := (height + blockHeight - 1) / blockHeight }

/-- The range that is rendered into. -/
def targetRange (_ : Texture) (layer : Nat) : ViewRange :=
  { dimension := .d2, mips := 1, baseLayer := layer, layers := 1 }

/-- The range that is sampled. -/
def sampledRange (t : Texture) : ViewRange where
  dimension := t.kind.sampledDimension
  aspect := t.sampledAspect
  mips := t.mips
  layers := t.layers

/-- The range of one storage view. -/
def storageRange (t : Texture) (level : Nat) : ViewRange where
  dimension := t.kind.storageDimension
  baseMip := level
  mips := 1
  layers := t.layers

/-! ## Contents -/

/-- The device texture. On first use it is created and the initial contents are written, layer after
layer; those of a depth-stencil texture are dropped. A surface texture is the image of the frame. -/
def handle : Action Texture Nat := do
  let t ← Action.object
  if t.kind = .surface then return (← Action.surface).texture
  match t.device with
  | some serial => return serial
  | none =>
    let serial ← Action.call (Device.createTexture t.request)
    if !t.format.isDepthStencil then
      t.contents.zipIdx.forM fun p =>
        Action.log (.textureWritten serial (t.levelWrite p.2 0 p.1))
    Action.change fun t => { t with device := some serial, contents := [] }
    return serial

/-- Makes one write, if the texture has its layer and its mip. -/
def write (serial : Nat) (w : TextureWrite) : Action Texture Unit := do
  let t ← Action.object
  if t.layers ≤ w.layer then throw (.layerOutOfRange t.id w.layer t.layers)
  if t.mips ≤ w.mip then throw (.mipLevelOutOfRange t.id w.mip)
  Action.log (.textureWritten serial (t.levelWrite w.layer w.mip w.data))

/-- Asks the handler, if there is one, which writes to make. -/
def askHandler (p : SyncPoint) : Action Texture (List TextureWrite) := do
  let t ← Action.object
  match t.handler with
  | none => return []
  | some h =>
    Action.log (.handlerCalled p (h.callsAt p))
    Action.change fun t => { t with handler := some (h.called p) }
    return h.ask p

/-- Brings the texture up to date for one point of a pass. -/
def acquire (p : SyncPoint) : Action Texture Unit := do
  let serial ← handle
  let writes ← askHandler p
  writes.forM (write serial)

/-! ## Modes -/

/-- Fails unless the texture was created with a usage. -/
def requireUsage (usage : TextureUsage) : Action Texture Unit := do
  let t ← Action.object
  if !t.usage.contains usage then throw (.usageNotSupported t.id usage)

/-- Makes a view of a range of the texture. -/
def makeView (range : ViewRange) : Action Texture View := do
  let t ← Action.object
  let serial ← handle
  Action.call (Device.createView t.label serial range)

/-- Selects rendering into the first mip of a layer. -/
def useAsTarget (layer : Nat) : Action Texture Unit := do
  requireUsage { renderAttachment := true }
  let t ← Action.object
  if t.layers ≤ layer then throw (.layerOutOfRange t.id layer t.layers)
  if t.kind ≠ .surface ∧ (t.targetViews.lookup layer).isNone then
    let view ← makeView (t.targetRange layer)
    Action.change fun t => { t with targetViews := t.targetViews ++ [(layer, view)] }
  Action.change fun t => { t with mode := .target, targetLayer := layer }

/-- Selects sampling of all mips and layers. -/
def useAsSampled : Action Texture Unit := do
  requireUsage { textureBinding := true }
  let t ← Action.object
  if t.kind ≠ .surface ∧ t.sampledView.isNone then
    let view ← makeView t.sampledRange
    Action.change fun t => { t with sampledView := some view }
  Action.change fun t => { t with mode := .sampled }

/-- Selects storage access. All storage views are made together, one for each mip. -/
def useAsStorage : Action Texture Unit := do
  requireUsage { storageBinding := true }
  let t ← Action.object
  if t.storageViews.isNone then
    let serial ← handle
    let views ← (List.range t.mips).mapM fun level =>
      Action.call (Device.createView t.label serial (t.storageRange level))
    Action.change fun t => { t with storageViews := some views }
  Action.change fun t => { t with mode := .storage }

/-! ## Views -/

/-- The view for rendering: the image of the frame, or the view of the selected layer. -/
def targetView : Action Texture View := do
  let t ← Action.object
  if t.kind = .surface then return (← Action.surface).view
  match t.targetViews.lookup t.targetLayer with
  | some view => return view
  | none => throw (.usageNotDeclared t.id)

/-- The view for sampling. The surface image gets a new one each time. -/
def sampledViewNow : Action Texture View := do
  let t ← Action.object
  if t.kind = .surface then return ← makeView t.sampledRange
  match t.sampledView with
  | some view => return view
  | none => throw (.usageNotDeclared t.id)

/-- The storage view at the cursor, which moves on if auto-advance is on. -/
def storageView : Action Texture View := do
  let t ← Action.object
  if t.autoAdvance then
    Action.change fun t => { t with cursor := (t.cursor + 1) % t.mips }
  match (t.storageViews.getD [])[t.cursor]? with
  | some view => return view
  | none => throw (.mipLevelOutOfRange t.id t.cursor)

/-- The view of the selected mode. -/
def view : Action Texture View := do
  let t ← Action.object
  match t.mode with
  | .none => throw (.usageNotDeclared t.id)
  | .target => targetView
  | .sampled => sampledViewNow
  | .storage => storageView

/-! ## The cursor -/

/-- Points the cursor at a mip, modulo the number of mips. -/
def pointCursor (t : Texture) (level : Nat) : Texture := { t with cursor := level % t.mips }

/-- Moves the cursor to the next mip, and from the last to the first. -/
def advanceCursor (t : Texture) : Texture := { t with cursor := (t.cursor + 1) % t.mips }

/-- Turns auto-advance on or off. -/
def setAutoAdvance (enabled : Bool) (t : Texture) : Texture := { t with autoAdvance := enabled }

/-- Sets the handler that is asked around passes, in place of an earlier one. -/
def setHandler (handler : Handler TextureWrite) (t : Texture) : Texture :=
  { t with handler := some handler }

/-- The assignment of a texture. -/
def assignment (t : Texture) : Assignment := ⟨t.id, t.kind.role⟩

/-- The shown text of a texture. -/
def text (t : Texture) : String :=
  Text.fields "Texture" [
    ("id", t.id.text), ("label", Text.label t.label), ("kind", t.kind.title),
    ("format", t.format.title),
    ("size", Text.tuple [toString t.width, toString t.height, toString t.layers]),
    ("mip_level_count", toString t.mips), ("mode", t.mode.title)]

end Texture

/-- The shown text of a description. -/
def TextureDesc.text (d : TextureDesc) : String :=
  Text.fields "TextureDesc" [
    ("id", Text.option (d.id.map ResourceId.text)), ("label", Text.label d.label),
    ("width", toString d.width), ("height", toString d.height),
    ("format", Text.option (d.format.map TextureFormat.title)),
    ("mip_level_count", Text.option (d.mips.map toString)),
    ("sample_count", toString d.samples), ("usage", d.usage.text),
    ("contents", toString d.contents.length), ("handler", Text.bool d.handler.isSome)]

end PassForge
