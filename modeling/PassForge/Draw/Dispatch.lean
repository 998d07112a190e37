import PassForge.Context.Basic

/-!
# Dispatches

A `Dispatch` is how a compute pass starts its workgroups: in numbers given by the host, or with
arguments read from a buffer.

* `Dispatch.check` accepts a dispatch exactly if its numbers are within the device limit, or its
  buffer is registered, can hold arguments and holds them at the given offset.
* `Dispatch.command` is the command that makes it.
-/

namespace PassForge

/-- How a compute pass starts its workgroups. -/
inductive Dispatch where
  | workgroups (x y z : Nat)
  /-- Reads the numbers from a buffer, at a byte offset. -/
  | indirect (arguments : ResourceId) (offset : Nat)
  deriving DecidableEq

namespace Dispatch

/-- Every buffer that the dispatch reads. -/
def buffers : Dispatch → List ResourceId
  | workgroups .. => []
  | indirect id _ => [id]

/-- Checks that a buffer holds the arguments of a dispatch at an offset. -/
def checkArguments (buffers : Store Buffer) (id : ResourceId) (offset : Nat) :
    Except CompileError Unit := do
  let buffer ← buffers.require id
  if !buffer.kind.usage.indirect then throw (.invalidDispatch (.noIndirectUsage id))
  if offset % 4 ≠ 0 then throw (.invalidDispatch (.argumentsDoNotFit offset id buffer.size))
  if UInt64.size ≤ offset + dispatchArgumentsSize then throw .addressOverflow
  if buffer.size < offset + dispatchArgumentsSize then
    throw (.invalidDispatch (.argumentsDoNotFit offset id buffer.size))

/-- Checks a dispatch against the device limits and the registered buffers. -/
def check (d : Dispatch) (buffers : Store Buffer) (limits : Limits) : Except CompileError Unit :=
  match d with
  | workgroups x y z =>
    let most := limits.maxComputeWorkgroupsPerDimension
    if most < x ∨ most < y ∨ most < z then
      .error (.invalidDispatch (.tooManyWorkgroups x y z most))
    else .ok ()
  | indirect id offset => checkArguments buffers id offset

/-- The command that makes a dispatch. -/
def command : Dispatch → Work ResourceError ComputeCommand
  | workgroups x y z => pure (.dispatch x y z)
  | indirect id offset => do
    return .dispatchIndirect (← Work.on .buffers id Buffer.handle) offset

/-- The shown text of a dispatch. -/
def text : Dispatch → String
  | workgroups x y z =>
    Text.fields "Workgroups" [("x", toString x), ("y", toString y), ("z", toString z)]
  | indirect id offset =>
    Text.fields "Indirect" [("buffer", id.text), ("offset", toString offset)]

end Dispatch

end PassForge
