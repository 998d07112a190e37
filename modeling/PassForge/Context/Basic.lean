import PassForge.Resource.Attachment
import PassForge.Resource.Buffer
import PassForge.Resource.MipViews
import PassForge.Resource.Sampler
import PassForge.Resource.Shader
import PassForge.Store

/-!
# The context

A `Context` is the device together with a store for each kind of resource. Resources live as long as
the context does and refer to each other by id.

* `Work ε α` is a piece of work on a context. It may fail, and what it did before it failed stays
  done.
* A `Shelf` names one of the stores of a context; `Work.find` looks a resource up on it and `Work.on`
  runs an action on one.
-/

namespace PassForge

/-- The device and the resources that live on it. -/
structure Context where
  device : Device
  /-- The number of the next id that is minted. -/
  nextId : Nat := 1
  buffers : Store Buffer := ⟨"buffer", .empty⟩
  textures : Store Texture := ⟨"texture", .empty⟩
  samplers : Store Sampler := ⟨"sampler", .empty⟩
  shaders : Store Shader := ⟨"shader", .empty⟩
  colorAttachments : Store ColorAttachment := ⟨"color attachment", .empty⟩
  depthAttachments : Store DepthAttachment := ⟨"depth-stencil attachment", .empty⟩
  pipelines : Store Pipeline := ⟨"pipeline", .empty⟩

namespace Context

/-- A context without resources, on a device with the given limits. -/
def start (limits : Limits) : Context := { device := .start limits }

/-- The id that is minted next, and the context after that. -/
def mint (c : Context) : ResourceId × Context :=
  (⟨c.nextId⟩, { c with nextId := c.nextId + 1 })

/-- The shown text of a context. -/
def text (c : Context) : String :=
  Text.fields "Context" [
    ("device", "Device"), ("buffers", c.buffers.text), ("textures", c.textures.text),
    ("samplers", c.samplers.text), ("shaders", c.shaders.text), ("pipelines", c.pipelines.text)]

end Context

/-- A piece of work on a context that yields a value or fails. -/
abbrev Work (ε α : Type) := EStateM ε Context α

/-- One of the stores of a context. -/
structure Shelf (α : Type) where
  get : Context → Store α
  set : Store α → Context → Context

namespace Shelf

/-- The store of buffers. -/
def buffers : Shelf Buffer := ⟨Context.buffers, fun s c => { c with buffers := s }⟩

/-- The store of textures. -/
def textures : Shelf Texture := ⟨Context.textures, fun s c => { c with textures := s }⟩

/-- The store of samplers. -/
def samplers : Shelf Sampler := ⟨Context.samplers, fun s c => { c with samplers := s }⟩

/-- The store of shaders. -/
def shaders : Shelf Shader := ⟨Context.shaders, fun s c => { c with shaders := s }⟩

/-- The store of colour attachments. -/
def colorAttachments : Shelf ColorAttachment :=
  ⟨Context.colorAttachments, fun s c => { c with colorAttachments := s }⟩

/-- The store of depth-stencil attachments. -/
def depthAttachments : Shelf DepthAttachment :=
  ⟨Context.depthAttachments, fun s c => { c with depthAttachments := s }⟩

/-- The store of pipelines. -/
def pipelines : Shelf Pipeline := ⟨Context.pipelines, fun s c => { c with pipelines := s }⟩

end Shelf

namespace Work

variable {ε α τ : Type}

/-- Work that may fail for a reason of a resource, as part of compiling a pass. -/
instance : MonadLift (Work ResourceError) (Work CompileError) where
  monadLift w c :=
    match w c with
    | .ok a c' => .ok a c'
    | .error e c' => .error (.resource e) c'

/-- A value or a failure, as work that changes nothing. -/
instance : MonadLift (Except ε) (Work ε) where
  monadLift r c :=
    match r with
    | .ok a => .ok a c
    | .error e => .error e c

/-- The context as it is now. -/
def context : Work ε Context := fun c => .ok c c

/-- Calls an operation of the device. -/
def call (f : Device → α × Device) : Work ε α := fun c =>
  .ok (f c.device).1 { c with device := (f c.device).2 }

/-- Appends an event to the trace of the device. -/
def log (e : Event) : Work ε Unit := fun c => .ok () { c with device := c.device.log e }

/-- A new id. -/
def mint : Work ε ResourceId := fun c => .ok c.mint.1 c.mint.2

/-- The resource under an id. -/
def find (shelf : Shelf τ) (id : ResourceId) : Work ResourceError τ := fun c =>
  match (shelf.get c).find id with
  | .ok a => .ok a c
  | .error e => .error e c

/-- Runs an action on the resource under an id. What the action has done stays done if it fails. -/
def on (shelf : Shelf τ) (id : ResourceId) (action : Action τ α) : Work ResourceError α := fun c =>
  match (shelf.get c).find id with
  | .error e => .error e c
  | .ok a =>
    match action ⟨a, c.device⟩ with
    | .ok r l => .ok r (shelf.set ((shelf.get c).update id l.object) { c with device := l.device })
    | .error e l =>
      .error e (shelf.set ((shelf.get c).update id l.object) { c with device := l.device })

end Work

end PassForge
