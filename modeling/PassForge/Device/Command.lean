import PassForge.Device.View
import PassForge.Gpu.Vertex
import PassForge.Options.Basic

/-!
# Commands and attachments of passes

Device objects are named by their serials.
-/

namespace PassForge

/-- A command of a render pass. -/
inductive RenderCommand where
  | setPipeline (pipeline : Nat)
  | setBindGroup (index group : Nat)
  | setVertexBuffer (slot buffer : Nat)
  | setIndexBuffer (buffer : Nat) (format : IndexFormat)
  /-- Draws the vertices and instances below the given numbers. -/
  | draw (vertices instances : Nat)
  /-- Draws the indices and instances below the given numbers, from vertex 0 on. -/
  | drawIndexed (indices instances : Nat)
  | drawIndirect (buffer offset : Nat)
  | drawIndexedIndirect (buffer offset : Nat)
  | multiDrawIndirect (buffer offset count : Nat)
  | multiDrawIndexedIndirect (buffer offset count : Nat)
  deriving DecidableEq

/-- A command of a compute pass. -/
inductive ComputeCommand where
  | setPipeline (pipeline : Nat)
  | setBindGroup (index group : Nat)
  | dispatch (x y z : Nat)
  | dispatchIndirect (buffer offset : Nat)
  deriving DecidableEq

/-- What a pass starts an attachment from. -/
inductive LoadOp (α : Type) where
  | clear (value : α)
  | load
  deriving DecidableEq

/-- The load operation of a load mode. -/
def LoadMode.op {α : Type} (m : LoadMode) (value : α) : LoadOp α :=
  match m with
  | .clear => .clear value
  | .load => .load

/-- A colour attachment of a pass. -/
structure ColorPass where
  view : View
  /-- The view that the samples are resolved into. -/
  resolve : Option View
  load : LoadOp Color
  deriving DecidableEq

/-- The depth-stencil attachment of a pass; an aspect that is absent or read only has no
operation. -/
structure DepthPass where
  view : View
  depth : Option (LoadOp Binary32)
  stencil : Option (LoadOp Nat)
  deriving DecidableEq

end PassForge
