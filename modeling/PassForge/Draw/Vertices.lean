import PassForge.Assignment.Attributes
import PassForge.Shader.Interface
import PassForge.Store
import PassForge.Resource.Buffer

/-!
# Vertex buffer layouts

`VertexState` says which vertex buffers are bound at which slot and how each is laid out. It follows
from the inputs that the vertex shader declares and the buffers that feed them.

* Slots are numbered by the first input that a buffer feeds.
* The attributes of one buffer follow each other without gaps, in the order of the inputs, and the
  stride is the sum of their sizes.
-/

namespace PassForge

/-- The vertex buffers of a pipeline, by slot. -/
structure VertexState where
  layouts : List VertexBufferLayout
  buffers : List ResourceId
  deriving DecidableEq

/-- One input with the buffer that feeds it. -/
structure VertexFeed where
  buffer : ResourceId
  format : VertexFormat
  location : Nat
  deriving DecidableEq

/-- The feed of an input. -/
def AttributeTable.feed (t : AttributeTable) (i : VertexInput) : Except CompileError VertexFeed :=
  match t.buffer? i.name with
  | none => .error (.attributeNotAssigned i.name)
  | some buffer =>
    match VertexFormat.ofInput? i.format with
    | none => .error (.unsupportedVertexInput i.name)
    | some format => .ok ⟨buffer, format, i.location⟩

/-- The attributes of feeds that follow each other from a byte offset on. -/
def placeFeeds (offset : Nat) : List VertexFeed → List VertexAttribute
  | [] => []
  | f :: rest =>
    ⟨f.format, offset, f.location⟩ :: placeFeeds (offset + f.format.byteSize) rest

/-- The layout of a buffer with the given feeds. -/
def VertexBufferLayout.ofFeeds (feeds : List VertexFeed) : VertexBufferLayout where
  stride := feeds.foldl (fun total f => total + f.format.byteSize) 0
  attributes := placeFeeds 0 feeds

/-- The vertex buffers that a vertex shader with the given inputs reads. -/
def vertexState (inputs : List VertexInput) (t : AttributeTable) (buffers : Store Buffer) :
    Except CompileError VertexState := do
  let feeds ← inputs.mapM t.feed
  let slots := (feeds.map VertexFeed.buffer).eraseDups
  let _ ← slots.mapM buffers.require
  return {
    layouts := slots.map fun id => .ofFeeds (feeds.filter fun f => f.buffer = id)
    buffers := slots }

end PassForge
