import PassForge.Device.BindGroup
import PassForge.Device.Command
import PassForge.Device.Pipeline

/-!
# Events

Everything that is asked of a device, and every call of a host function, is one `Event`. The events
of a device stand in its trace in the order in which they happened.
-/

namespace PassForge

/-- One of the two points at which the host may update resources. -/
inductive SyncPoint where
  /-- Before the pass is recorded. -/
  | before
  /-- After the pass is recorded. -/
  | after
  deriving DecidableEq

/-- A device texture as it was asked for. -/
structure TextureRequest where
  label : Option String
  format : TextureFormat
  width : Nat
  height : Nat
  layers : Nat
  mips : Nat
  samples : Nat
  usage : TextureUsage
  deriving DecidableEq

/-- A write of one whole mip level of one layer. -/
structure LevelWrite where
  mip : Nat
  layer : Nat
  width : Nat
  height : Nat
  data : Array UInt8
  bytesPerRow : Nat
  rows : Nat
  deriving DecidableEq

/-- Something that happened. -/
inductive Event where
  | bufferCreated (serial : Nat) (label : Option String) (size : Nat) (usage : BufferUsage)
  | bufferWritten (buffer offset : Nat) (data : Array UInt8)
  | textureCreated (serial : Nat) (request : TextureRequest)
  | textureWritten (texture : Nat) (write : LevelWrite)
  | viewCreated (label : Option String) (view : View)
  | samplerCreated (serial : Nat) (label : Option String) (state : SamplerState)
  | shaderModuleCreated (serial : Nat) (label : Option String)
  | bindGroupLayoutCreated (serial : Nat) (label : String) (entries : List LayoutEntry)
  | bindGroupCreated (serial : Nat) (label : String) (layout : Nat) (entries : List GroupEntry)
  | pipelineLayoutCreated (serial : Nat) (label : Option String) (layouts : List Nat)
  | renderPipelineCreated (layout vertexModule fragmentModule : Nat)
      (multisample : MultisampleState) (pipeline : Pipeline)
  | computePipelineCreated (layout shaderModule : Nat) (pipeline : Pipeline)
  | renderPass (label : Option String) (colors : List ColorPass) (depth : Option DepthPass)
      (commands : List RenderCommand)
  | computePass (label : Option String) (commands : List ComputeCommand)
  | bufferCopied (source target size : Nat)
  | textureCopied (source sourceMip target targetMip width height : Nat)
  /-- An update handler was called, after so many earlier calls at that point. -/
  | handlerCalled (point : SyncPoint) (earlier : Nat)
  /-- The hook of a compute pass was called. -/
  | hookCalled
  deriving DecidableEq

/-- Whether the event puts a command into the command encoder. -/
def Event.isEncoded : Event → Bool
  | renderPass .. | computePass .. | bufferCopied .. | textureCopied .. => true
  | _ => false

end PassForge
