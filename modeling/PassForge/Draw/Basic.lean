import PassForge.Context.Basic

/-!
# Draws

A `Draw` is how a render pass draws: with numbers given by the host, or with arguments read from a
buffer, and over vertices in order or through an index buffer.

* `Draw.check` accepts a draw exactly if its buffers are registered, its index buffer can be used as
  one, and its argument buffer is of the kind it needs and holds arguments for all its draws.
* `Draw.commands` are the commands that make it.
-/

namespace PassForge

/-- How a render pass draws. Buffers are named by id. -/
inductive Draw where
  | vertices (count instances : Nat)
  /-- Draws every index of the index buffer. -/
  | indexed (index : ResourceId) (instances : Nat)
  | indirect (arguments : ResourceId)
  | indexedIndirect (index arguments : ResourceId)
  /-- Makes so many draws, their arguments one after the other. -/
  | multiIndirect (arguments : ResourceId) (count : Nat)
  | multiIndexedIndirect (index arguments : ResourceId) (count : Nat)
  deriving DecidableEq

namespace Draw

/-- The index buffer, if the draw is indexed. -/
def index? : Draw → Option ResourceId
  | indexed index _ | indexedIndirect index _ | multiIndexedIndirect index _ _ => some index
  | vertices .. | indirect _ | multiIndirect .. => none

/-- The argument buffer and the number of draws that it holds arguments for. -/
def arguments? : Draw → Option (ResourceId × Nat)
  | indirect arguments | indexedIndirect _ arguments => some (arguments, 1)
  | multiIndirect arguments count | multiIndexedIndirect _ arguments count =>
    some (arguments, count)
  | vertices .. | indexed .. => none

/-- Every buffer that the draw reads, the index buffer first. -/
def buffers (d : Draw) : List ResourceId := d.index?.toList ++ (d.arguments?.map Prod.fst).toList

/-- The format of the indices, if the draw is indexed. -/
def indexFormat? (d : Draw) : Option IndexFormat := d.index?.map fun _ => .uint32

/-- The kind that the argument buffer must have. -/
def argumentsKind (d : Draw) : BufferKind :=
  if d.index?.isSome then .indexedIndirect else .indirect

end Draw

/-- The bytes of one draw's arguments in a buffer of the given kind. -/
def BufferKind.argumentsSize (k : BufferKind) : Nat :=
  if k = .indexedIndirect then drawIndexedArgumentsSize else drawArgumentsSize

namespace Draw

/-- Checks that a buffer can be used as an index buffer. -/
def checkIndex (buffers : Store Buffer) (id : ResourceId) : Except CompileError Unit := do
  let buffer ← buffers.require id
  if !buffer.kind.usage.index then throw (.invalidDispatch (.noIndexUsage id))

/-- Checks that a buffer is of a kind and holds the arguments of so many draws, at least one. -/
def checkArguments (buffers : Store Buffer) (kind : BufferKind) (id : ResourceId) (count : Nat) :
    Except CompileError Unit := do
  let buffer ← buffers.require id
  if buffer.kind ≠ kind then throw (.invalidDispatch (.wrongKind id buffer.kind kind))
  if count = 0 ∨ buffer.size < count * kind.argumentsSize then
    throw (.invalidDispatch (.drawsDoNotFit count kind.argumentsSize id buffer.size))

/-- Checks the buffers of a draw. -/
def check (d : Draw) (buffers : Store Buffer) : Except CompileError Unit := do
  if let some id := d.index? then checkIndex buffers id
  if let some (id, count) := d.arguments? then checkArguments buffers d.argumentsKind id count

/-- The commands that make a draw. An indexed draw binds its index buffer first. -/
def commands (d : Draw) : Work ResourceError (List RenderCommand) := do
  let handle (id : ResourceId) := Work.on .buffers id Buffer.handle
  let bound ← match d.index? with
    | some id => pure [RenderCommand.setIndexBuffer (← handle id) .uint32]
    | none => pure []
  let draw ← match d with
    | vertices count instances => pure (RenderCommand.draw count instances)
    | indexed id instances =>
      pure (RenderCommand.drawIndexed (← Work.find .buffers id).indexCount instances)
    | indirect id => RenderCommand.drawIndirect <$> handle id <*> pure 0
    | indexedIndirect _ id => RenderCommand.drawIndexedIndirect <$> handle id <*> pure 0
    | multiIndirect id count => pure (RenderCommand.multiDrawIndirect (← handle id) 0 count)
    | multiIndexedIndirect _ id count =>
      pure (RenderCommand.multiDrawIndexedIndirect (← handle id) 0 count)
  return bound ++ [draw]

/-- The shown text of a draw. -/
def text : Draw → String
  | vertices count instances =>
    Text.fields "Draw" [("vertex_count", toString count), ("instance_count", toString instances)]
  | indexed index instances =>
    Text.fields "DrawIndexed" [("index", index.text), ("instance_count", toString instances)]
  | indirect id => Text.fields "DrawIndirect" [("indirect", id.text)]
  | indexedIndirect index id =>
    Text.fields "DrawIndexedIndirect" [("index", index.text), ("indirect", id.text)]
  | multiIndirect id count =>
    Text.fields "MultiDrawIndirect" [("indirect", id.text), ("count", toString count)]
  | multiIndexedIndirect index id count =>
    Text.fields "MultiDrawIndexedIndirect" [
      ("index", index.text), ("indirect", id.text), ("count", toString count)]

end Draw

end PassForge
