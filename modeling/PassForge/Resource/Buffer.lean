import PassForge.Assignment.Bag
import PassForge.Resource.Action
import PassForge.Resource.Handler
import PassForge.Text.Structure

/-!
# Buffers

A `Buffer` is checked against the device limits when it is created and gets its device buffer on
first use.

* `create` checks a description.
* `handle` is the device buffer; the first use creates it and writes the initial contents.
* `write` makes one host-side write, `acquire` brings the buffer up to date for one point of a pass.
* `staging` is the host-readable copy of a map buffer, which `acquire` fills after every pass.
-/

namespace PassForge

/-- Bytes to put into a buffer at an offset. -/
structure BufferWrite where
  offset : Nat
  data : Array UInt8
  deriving DecidableEq

/-- What a buffer is created from. -/
structure BufferDesc where
  /-- An id to take; a buffer that is already registered under it is used instead. -/
  id : Option ResourceId := none
  label : Option String := none
  size : Nat
  /-- Bytes that are written once when the device buffer is created. -/
  contents : Option (Array UInt8) := none
  handler : Option (Handler BufferWrite) := none

/-- A buffer. -/
structure Buffer where
  id : ResourceId
  label : Option String
  kind : BufferKind
  size : Nat
  /-- The initial contents, until they are written. -/
  contents : Option (Array UInt8)
  /-- The serial of the device buffer, once there is one. -/
  device : Option Nat := none
  /-- The serial of the staging buffer, once there is one. -/
  stage : Option Nat := none
  handler : Option (Handler BufferWrite)

namespace Buffer

/-- What offsets and lengths of writes are multiples of. -/
def writeAlignment : Nat := 4

/-- Checks that a write is aligned and stays inside a buffer of the given size. -/
def checkWrite (id : ResourceId) (size offset length : Nat) : Except ResourceError Unit :=
  if offset % writeAlignment ≠ 0 then .error (.misaligned "write offset" offset writeAlignment)
  else if length % writeAlignment ≠ 0 then
    .error (.misaligned "write length" length writeAlignment)
  else if size < offset + length then .error (.writeOutOfBounds id offset length size)
  else .ok ()

/-- The buffer with the given id and kind that a description asks for. -/
def create (limits : Limits) (kind : BufferKind) (desc : BufferDesc) (id : ResourceId) :
    Except ResourceError Buffer := do
  if desc.size = 0 then throw (.zeroSize kind.name id)
  if kind.sizeLimit limits ≤ desc.size then
    throw (.limitExceeded kind.sizeLimitName desc.size (kind.sizeLimit limits))
  if desc.size % kind.sizeMultiple ≠ 0 then
    throw (.misaligned kind.name desc.size kind.sizeMultiple)
  if let some contents := desc.contents then checkWrite id desc.size 0 contents.size
  return {
    id := id
    label := desc.label
    kind := kind
    size := desc.size
    contents := desc.contents
    handler := desc.handler }

/-- The number of 32-bit indices in the buffer, as a 32-bit number. -/
def indexCount (b : Buffer) : Nat := b.size / 4 % UInt32.size

/-- The device buffer, created and filled with the initial contents on first use. -/
def handle : Action Buffer Nat := do
  let b ← Action.object
  match b.device with
  | some serial => return serial
  | none =>
    let serial ← Action.call (Device.createBuffer b.label b.size b.kind.usage)
    if let some contents := b.contents then Action.log (.bufferWritten serial 0 contents)
    Action.change fun b => { b with device := some serial, contents := none }
    return serial

/-- The staging buffer of a map buffer, created on first use. -/
def staging : Action Buffer Nat := do
  let b ← Action.object
  if b.kind ≠ .map then throw (.notMappable b.id)
  match b.stage with
  | some serial => return serial
  | none =>
    let usage := { mapRead := true, copyTarget := true }
    let serial ← Action.call (Device.createBuffer b.label b.size usage)
    Action.change fun b => { b with stage := some serial }
    return serial

/-- Makes one write, if it is aligned and stays inside the buffer. -/
def write (w : BufferWrite) : Action Buffer Unit := do
  let b ← Action.object
  MonadExcept.ofExcept (checkWrite b.id b.size w.offset w.data.size)
  let serial ← handle
  Action.log (.bufferWritten serial w.offset w.data)

/-- Asks the handler, if there is one, which writes to make. -/
def askHandler (p : SyncPoint) : Action Buffer (List BufferWrite) := do
  let b ← Action.object
  match b.handler with
  | none => return []
  | some h =>
    Action.log (.handlerCalled p (h.callsAt p))
    Action.change fun b => { b with handler := some (h.called p) }
    return h.ask p

/-- Brings the buffer up to date for one point of a pass: makes the writes that the handler asks
for, and after the pass copies a map buffer into its staging buffer. -/
def acquire (p : SyncPoint) : Action Buffer Unit := do
  let _ ← handle
  let writes ← askHandler p
  writes.forM write
  let b ← Action.object
  if b.kind = .map ∧ p = .after then
    let target ← staging
    let source ← handle
    Action.log (.bufferCopied source target b.size)

/-- Sets the handler that is asked around passes, in place of an earlier one. -/
def setHandler (handler : Handler BufferWrite) (b : Buffer) : Buffer :=
  { b with handler := some handler }

/-- The assignment of a buffer. -/
def assignment (b : Buffer) : Assignment := ⟨b.id, b.kind.role⟩

/-- The shown text of a buffer. -/
def text (b : Buffer) : String :=
  Text.fields "Buffer" [
    ("id", b.id.text), ("label", Text.label b.label), ("kind", b.kind.title),
    ("size", toString b.size), ("materialized", Text.bool b.device.isSome)]

end Buffer

namespace BufferDesc

/-- The description of a buffer that is as large as its contents. -/
def withContents (contents : Array UInt8) : BufferDesc :=
  { size := contents.size, contents := some contents }

/-- The shown text of a description. -/
def text (d : BufferDesc) : String :=
  Text.fields "BufferDesc" [
    ("id", Text.option (d.id.map ResourceId.text)), ("label", Text.label d.label),
    ("size", toString d.size),
    ("contents", Text.option (d.contents.map fun c => toString c.size)),
    ("handler", Text.bool d.handler.isSome)]

end BufferDesc

end PassForge
