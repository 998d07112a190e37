import PassForge.Binding.Layout
import PassForge.Shader.Extent

/-!
# Bind groups

`makeBindGroup` binds the resources that are assigned to the bindings of a group.

* A buffer behind one binding of the group is bound whole.
* A buffer behind several bindings of the group is cut into consecutive ranges in the order of the
  bindings, each as large as the shader says and at the next offset that the device can align to. A
  range that leaves the buffer is an error.
* A texture is switched to the mode that the binding needs before its view is read.
-/

namespace PassForge

/-- How often each buffer is assigned to a buffer binding of a group. -/
def MergedGroup.references (g : MergedGroup) (table : UniformTable) (id : ResourceId) : Nat :=
  g.bindings.countP fun b =>
    b.kind.isBuffer && (table.assignment? b.name).any fun a => a.resource = id

/-- The multiple that the offset of a range must be. -/
def ResourceKind.offsetAlignment (k : ResourceKind) (l : Limits) : Nat :=
  match k with
  | .uniformBuffer => l.minUniformOffsetAlignment
  | _ => l.minStorageOffsetAlignment

/-- For each shared buffer, the end of the last range that has been cut from it. -/
abbrev Cuts := SortedMap ResourceId Nat

/-- A range of a buffer. -/
structure BufferRange where
  offset : Nat
  size : Nat
  deriving DecidableEq

/-- The end of a range. -/
def BufferRange.stop (r : BufferRange) : Nat := r.offset + r.size

/-- The next range for a binding, if everything below `used` is taken. -/
def MergedBinding.rangeAfter (b : MergedBinding) (limits : Limits) (used : Nat) : BufferRange :=
  ⟨roundUp used (b.kind.offsetAlignment limits), b.size.getD 0⟩

/-- Cuts the range for a binding from a shared buffer. -/
def cut (limits : Limits) (buffer : Buffer) (b : MergedBinding) (cuts : Cuts) :
    Except CompileError (BufferRange × Cuts) :=
  let range := b.rangeAfter limits ((cuts.get? buffer.id).getD 0)
  if UInt64.size ≤ range.stop then .error .addressOverflow
  else if buffer.size < range.stop then
    .error (.resource (.limitExceeded "buffer binding range" range.stop buffer.size))
  else .ok (range, cuts.insert buffer.id range.stop)

/-- Binds a buffer: whole, or as the next range if the group shares it. -/
def bindBuffer (table : UniformTable) (g : MergedGroup) (b : MergedBinding) (buffer : Buffer)
    (cuts : Cuts) : Work CompileError (BoundResource × Cuts) := do
  let serial ← Work.on .buffers buffer.id Buffer.handle
  if g.references table buffer.id ≤ 1 then return (.buffer serial 0 none, cuts)
  let c ← Work.context
  let (range, cuts) ← cut c.device.limits buffer b cuts
  return (.buffer serial range.offset (if range.size = 0 then none else some range.size), cuts)

/-- Binds the view of a texture, in storage mode for a storage binding and sampled otherwise. -/
def bindTexture (b : MergedBinding) (t : Texture) : Work CompileError BoundResource := do
  match b.kind with
  | .storageTexture .. => Work.on .textures t.id Texture.useAsStorage
  | _ => Work.on .textures t.id Texture.useAsSampled
  return .view (← Work.on .textures t.id Texture.view)

/-- Binds what is assigned to a binding. -/
def bindResource (table : UniformTable) (g : MergedGroup) (b : MergedBinding) (cuts : Cuts) :
    Work CompileError (BoundResource × Cuts) := do
  let c ← Work.context
  match ← (resolve c table g.index b : Except CompileError _) with
  | .buffer buffer => bindBuffer table g b buffer cuts
  | .texture t => return (← bindTexture b t, cuts)
  | .sampler s => return (.sampler (← Work.on .samplers s.id Sampler.handle), cuts)

/-- Binds what is assigned to a list of bindings, in that order. -/
def bindAll (table : UniformTable) (g : MergedGroup) :
    List MergedBinding → Cuts → Work CompileError (List GroupEntry)
  | [], _ => pure []
  | b :: rest, cuts => do
    let (resource, cuts) ← bindResource table g b cuts
    return ⟨b.binding, resource⟩ :: (← bindAll table g rest cuts)

/-- Makes the bind group of a layout. There must be an entry for each entry of the layout. -/
def makeBindGroup (table : UniformTable) (l : GroupLayout) : Work CompileError Nat := do
  let entries ← bindAll table l.group l.group.bindings .empty
  if entries.length ≠ l.entries.length then
    throw (.bindGroupEntryMismatch l.group.index l.entries.length entries.length)
  let label := "bind group " ++ toString l.group.index
  Work.call (Device.createBindGroup label l.layout entries)

/-- Makes the bind groups of all layouts, in their order. -/
def makeBindGroups (table : UniformTable) (layouts : List GroupLayout) :
    Work CompileError (List Nat) :=
  layouts.mapM (makeBindGroup table)

end PassForge
