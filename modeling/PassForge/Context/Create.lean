import PassForge.Context.Basic

/-!
# Creating resources and copying textures

Each operation that creates takes a description, registers the resource it describes and gives its
id.

* Without an id in the description a new one is minted, even if the creation then fails.
* If a resource is registered under the id already, it is kept and the description is not looked at.
* A creation that fails registers nothing.
* Only `registerPipeline` asks for no id and looks for no pipeline that is registered already.

`copyTexture` copies a mip level of one texture into another.
-/

namespace PassForge.Work

variable {τ : Type}

/-- The wanted id, or a new one. -/
def takeId (wanted : Option ResourceId) : Work ResourceError ResourceId :=
  match wanted with
  | some id => pure id
  | none => mint

/-- Registers what `make` gives for an id, unless there is a resource under that id. -/
def register (shelf : Shelf τ) (wanted : Option ResourceId)
    (make : Context → ResourceId → Except ResourceError τ) : Work ResourceError ResourceId := do
  let id ← takeId wanted
  let c ← context
  let (_, store) ← (shelf.get c).obtain id (make c)
  modify (shelf.set store)
  return id

/-- Creates a buffer. -/
def createBuffer (kind : BufferKind) (desc : BufferDesc) : Work ResourceError ResourceId :=
  register .buffers desc.id fun c => Buffer.create c.device.limits kind desc

/-- Creates a texture with the given number of layers. -/
def createTexture (kind : TextureKind) (layers : Nat) (desc : TextureDesc) :
    Work ResourceError ResourceId :=
  register .textures desc.id fun c =>
    Texture.create c.device.limits c.device.surfaceFormat kind layers desc

/-- Creates a two-dimensional texture. -/
def createTexture2d (desc : TextureDesc) : Work ResourceError ResourceId :=
  createTexture .d2 1 desc

/-- Creates a two-dimensional texture for storage access. -/
def createStorageTexture2d (desc : TextureDesc) : Work ResourceError ResourceId :=
  createTexture .storage2d 1 desc

/-- Creates an array of two-dimensional textures. -/
def createTexture2dArray (layers : Nat) (desc : TextureDesc) : Work ResourceError ResourceId :=
  createTexture .d2Array layers desc

/-- Creates a cube texture, which has six layers. -/
def createTextureCube (desc : TextureDesc) : Work ResourceError ResourceId :=
  createTexture .cube 6 desc

/-- Creates the texture that stands for the surface. -/
def createSurfaceTexture (id : Option ResourceId) : Work ResourceError ResourceId :=
  register .textures id fun c id => .ok (Texture.ofSurface c.device id)

/-- Creates a sampler. -/
def createSampler (kind : SamplerKind) (desc : SamplerDesc) : Work ResourceError ResourceId :=
  register .samplers desc.id fun _ id => .ok (Sampler.create kind desc id)

/-- Creates a shader for a stage. -/
def createShader (stage : Stage) (desc : ShaderDesc) : Work ResourceError ResourceId :=
  register .shaders desc.id fun _ id => .ok (Shader.create stage desc id)

/-- Creates a colour attachment. -/
def createColorAttachment (desc : ColorAttachmentDesc) : Work ResourceError ResourceId :=
  register .colorAttachments desc.id fun _ id => .ok (ColorAttachment.create desc id)

/-- Creates a depth-stencil attachment. -/
def createDepthAttachment (desc : DepthAttachmentDesc) : Work ResourceError ResourceId :=
  register .depthAttachments desc.id fun c id => do
    DepthAttachment.create (← c.textures.find desc.texture) desc id

/-- Puts a pipeline under a new id, whether or not there is one under it. -/
def registerPipeline (p : Pipeline) : Work ResourceError ResourceId := do
  let id ← mint
  modify fun c => { c with pipelines := c.pipelines.insert id p }
  return id

/-! ## Copies -/

/-- Encodes a copy of one whole mip level into a mip level of another texture. The extent of the
copy is that of the source level. -/
def copyTexture (source : ResourceId) (sourceMip : Nat) (target : ResourceId)
    (targetMip : Nat) : Work ResourceError Unit := do
  let s ← find .textures source
  let t ← find .textures target
  s.requireMip sourceMip
  t.requireMip targetMip
  let sourceSerial ← on .textures source Texture.handle
  let targetSerial ← on .textures target Texture.handle
  let (width, height) := s.mipExtent sourceMip
  log (.textureCopied sourceSerial sourceMip targetSerial targetMip width height)

end PassForge.Work
