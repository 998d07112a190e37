import PassForge.Device.Event
import PassForge.Gpu.BufferKind

/-!
# The device

A `Device` is what the rest of the library talks to. Each operation that makes an object gives it
the next serial and appends an event to the trace; operations that only write, copy or encode append
an event alone. The command encoder is part of the trace: `encoded` lists what has been put into it.

* `start` is a device with its first surface image.
* `nextFrame` replaces the surface image, `loseSurface` takes it away.
-/

namespace PassForge

/-- The image of the surface that the current frame is shown on. -/
structure SurfaceImage where
  /-- The serial of the texture. -/
  texture : Nat
  view : View
  deriving DecidableEq

/-- The state of a device. -/
structure Device where
  limits : Limits := {}
  surfaceFormat : TextureFormat := .bgra8Unorm
  /-- Width and height of the surface. -/
  viewport : Nat × Nat := (640, 480)
  /-- The serial of the next object. -/
  nextSerial : Nat := 1
  /-- The surface image of the current frame, if there is one. -/
  surface : Option SurfaceImage := none
  /-- Everything that happened, oldest first. -/
  trace : List Event := []
  deriving DecidableEq

namespace Device

/-- Appends an event to the trace. -/
def log (d : Device) (e : Event) : Device := { d with trace := d.trace ++ [e] }

/-- Makes an object: takes the next serial and appends the event that belongs to it. -/
def create (d : Device) (event : Nat → Event) : Nat × Device :=
  (d.nextSerial, { d with nextSerial := d.nextSerial + 1 }.log (event d.nextSerial))

/-- Puts a new image behind the surface. Its texture and its view take a serial each. -/
def nextFrame (d : Device) : Device :=
  let texture := d.nextSerial
  { d with
    nextSerial := texture + 2
    surface := some ⟨texture, { serial := texture + 1, texture := texture }⟩ }

/-- Takes the surface image away. -/
def loseSurface (d : Device) : Device := { d with surface := none }

/-- A device with the given limits and its first surface image. -/
def start (limits : Limits) : Device := ({ limits := limits } : Device).nextFrame

/-- Makes a buffer. -/
def createBuffer (label : Option String) (size : Nat) (usage : BufferUsage) (d : Device) :
    Nat × Device :=
  d.create fun serial => .bufferCreated serial label size usage

/-- Makes a texture. -/
def createTexture (request : TextureRequest) (d : Device) : Nat × Device :=
  d.create fun serial => .textureCreated serial request

/-- Makes a view of a range of a texture. -/
def createView (label : Option String) (texture : Nat) (range : ViewRange) (d : Device) :
    View × Device :=
  let view := range.view d.nextSerial texture
  (view, (d.create fun _ => .viewCreated label view).2)

/-- Makes a sampler. -/
def createSampler (label : Option String) (state : SamplerState) (d : Device) : Nat × Device :=
  d.create fun serial => .samplerCreated serial label state

/-- Makes a shader module. -/
def createShaderModule (label : Option String) (d : Device) : Nat × Device :=
  d.create fun serial => .shaderModuleCreated serial label

/-- Makes a bind group layout. -/
def createBindGroupLayout (label : String) (entries : List LayoutEntry) (d : Device) :
    Nat × Device :=
  d.create fun serial => .bindGroupLayoutCreated serial label entries

/-- Makes a bind group. -/
def createBindGroup (label : String) (layout : Nat) (entries : List GroupEntry) (d : Device) :
    Nat × Device :=
  d.create fun serial => .bindGroupCreated serial label layout entries

/-- Makes a pipeline layout. -/
def createPipelineLayout (label : Option String) (layouts : List Nat) (d : Device) :
    Nat × Device :=
  d.create fun serial => .pipelineLayoutCreated serial label layouts

/-- Makes a render pipeline from the serials of its layout and its shader modules. -/
def createRenderPipeline (layout vertexModule fragmentModule : Nat) (samples : MultisampleState)
    (pipeline : Nat → Pipeline) (d : Device) : Pipeline × Device :=
  let made := pipeline d.nextSerial
  (made, (d.create fun _ =>
    .renderPipelineCreated layout vertexModule fragmentModule samples made).2)

/-- Makes a compute pipeline from the serials of its layout and its shader module. -/
def createComputePipeline (layout shaderModule : Nat) (pipeline : Nat → Pipeline) (d : Device) :
    Pipeline × Device :=
  let made := pipeline d.nextSerial
  (made, (d.create fun _ => .computePipelineCreated layout shaderModule made).2)

/-- The commands that have been put into the command encoder, oldest first. -/
def encoded (d : Device) : List Event := d.trace.filter Event.isEncoded

end Device

end PassForge
