import PassForge.Proofs.Draw.Arguments
import PassForge.Proofs.Pass.Faults

/-!
# What draws read

A draw can go through an index buffer, and can read its arguments from a buffer.

* `Draw.Accepted` says form by form which buffers a draw needs, and `Draw.check_eq_ok_iff_accepted` that
  the check asks for them and nothing else.
* `Draw.Reads` says form by form which commands make a draw and what they read. An index buffer is drawn
  to its last whole index because its size is below a device limit (`Context.indexCount_lt`).
* `draw_spec` is the whole statement.
-/

namespace PassForge

open Context (Arrange Lasting Step)
open Relation (ReflTransGen)

variable {c c' : Context} {id : ResourceId} {b : Buffer} {serial : Nat} {d : Draw}

/-! ## Accepted draws -/

/-- A registered buffer can be used as an index buffer. -/
def Store.HasIndices (buffers : Store Buffer) (id : ResourceId) : Prop :=
  ∃ b, buffers.get? id = some b ∧ b.kind.usage.index

/-- A registered buffer is of a kind and has room for so many blocks, at least one. -/
def Store.HasBlocks (buffers : Store Buffer) (kind : BufferKind) (id : ResourceId)
    (count bytes : Nat) : Prop :=
  ∃ b, buffers.get? id = some b ∧ b.kind = kind ∧ 1 ≤ count ∧ count * bytes ≤ b.size

namespace Draw

/-- The buffers that a draw needs are there. -/
inductive Accepted (buffers : Store Buffer) : Draw → Prop
  | vertices {count instances : Nat} : Accepted buffers (.vertices count instances)
  | indexed {index : ResourceId} {instances : Nat} (hi : buffers.HasIndices index) :
      Accepted buffers (.indexed index instances)
  | indirect {arguments : ResourceId} (h : buffers.HasBlocks .indirect arguments 1 drawArgumentsSize) :
      Accepted buffers (.indirect arguments)
  | indexedIndirect {index arguments : ResourceId} (hi : buffers.HasIndices index)
      (h : buffers.HasBlocks .indexedIndirect arguments 1 drawIndexedArgumentsSize) :
      Accepted buffers (.indexedIndirect index arguments)
  | multiIndirect {arguments : ResourceId} {count : Nat}
      (h : buffers.HasBlocks .indirect arguments count drawArgumentsSize) :
      Accepted buffers (.multiIndirect arguments count)
  | multiIndexedIndirect {index arguments : ResourceId} {count : Nat} (hi : buffers.HasIndices index)
      (h : buffers.HasBlocks .indexedIndirect arguments count drawIndexedArgumentsSize) :
      Accepted buffers (.multiIndexedIndirect index arguments count)

variable {buffers : Store Buffer}

theorem checkIndex_eq_ok_iff : checkIndex buffers id = .ok () ↔ buffers.HasIndices id := by
  unfold checkIndex Store.HasIndices
  rw [bind_eq_ok_iff]
  refine exists_congr fun b => and_congr Store.require_eq_ok_iff ?_
  cases b.kind.usage.index <;> simp [throw, throwThe, MonadExceptOf.throw, pure, Except.pure]

theorem checkArguments_eq_ok_iff {kind : BufferKind} {count : Nat} :
    checkArguments buffers kind id count = .ok () ↔
      buffers.HasBlocks kind id count kind.argumentsSize := by
  unfold checkArguments Store.HasBlocks
  rw [bind_eq_ok_iff]
  refine exists_congr fun b => and_congr Store.require_eq_ok_iff ?_
  simp only [bind, Except.bind, throw, throwThe, MonadExceptOf.throw, pure, Except.pure]
  split
  next hkind => simp [hkind]
  next hkind =>
    rw [not_not] at hkind
    split
    next hfits => simpa [hkind] using fun hcount => by omega
    next hfits => simpa [hkind] using ⟨by omega, by omega⟩

/-- The check asks for the buffers that the draw needs and for nothing else. -/
theorem check_eq_ok_iff_accepted : d.check buffers = .ok () ↔ d.Accepted buffers := by
  simp only [check_eq_ok_iff, checkIndex_eq_ok_iff, checkArguments_eq_ok_iff]
  constructor
  · rintro ⟨hindex, harguments⟩
    cases d with
    | vertices => exact .vertices
    | indexed index => exact .indexed (hindex index rfl)
    | indirect arguments => exact .indirect (harguments (arguments, 1) rfl)
    | indexedIndirect index arguments =>
      exact .indexedIndirect (hindex index rfl) (harguments (arguments, 1) rfl)
    | multiIndirect arguments count => exact .multiIndirect (harguments (arguments, count) rfl)
    | multiIndexedIndirect index arguments count =>
      exact .multiIndexedIndirect (hindex index rfl) (harguments (arguments, count) rfl)
  · intro h
    cases h with
    | vertices => exact ⟨fun _ h => (nomatch h), fun _ h => (nomatch h)⟩
    | indexed hi => exact ⟨fun _ h => by cases h; exact hi, fun _ h => (nomatch h)⟩
    | indirect h | multiIndirect h => exact ⟨fun _ h => (nomatch h), fun _ hp => by cases hp; exact h⟩
    | indexedIndirect hi h | multiIndexedIndirect hi h =>
      exact ⟨fun _ hid => by cases hid; exact hi, fun _ hp => by cases hp; exact h⟩

theorem Accepted.lasting (h : d.Accepted c.buffers) (hc : Lasting c c') : d.Accepted c'.buffers :=
  check_eq_ok_iff_accepted.1 (check_stands hc (check_eq_ok_iff_accepted.2 h))

/-- The buffers of an accepted draw are registered. -/
theorem Accepted.holds (h : d.Accepted c.buffers) : c.Holds d.buffers := by
  have hindices {id : ResourceId} (h : c.buffers.HasIndices id) : id ∈ c.ids .buffers := by
    obtain ⟨b, hb, -⟩ := h
    exact Store.mem_ids_iff.2 ⟨b, hb⟩
  have hblocks {kind : BufferKind} {id : ResourceId} {count bytes : Nat}
      (h : c.buffers.HasBlocks kind id count bytes) : id ∈ c.ids .buffers := by
    obtain ⟨b, hb, -⟩ := h
    exact Store.mem_ids_iff.2 ⟨b, hb⟩
  cases h with
  | vertices => simp [Context.Holds, buffers, index?, arguments?]
  | indexed hi => simpa [Context.Holds, buffers, index?, arguments?] using hindices hi
  | indirect h | multiIndirect h =>
    simpa [Context.Holds, buffers, index?, arguments?] using hblocks h
  | indexedIndirect hi h | multiIndexedIndirect hi h =>
    simpa [Context.Holds, buffers, index?, arguments?] using ⟨hindices hi, hblocks h⟩

end Draw

/-! ## Commands -/

/-- A device buffer that was made for a buffer of a size, for indices to be read from it. -/
def Context.BindsIndices (c : Context) (id : ResourceId) (serial size : Nat) : Prop :=
  ∃ b, c.buffers.get? id = some b ∧ b.device = some serial ∧ b.kind.usage.index ∧ b.size = size ∧
    .bufferCreated serial b.label b.size b.kind.usage ∈ c.device.trace

namespace Draw

/-- The commands of a draw, and what they read: every index of an index buffer, and arguments from the
start of their buffer on, one block for each draw. -/
inductive Reads (c : Context) : Draw → List RenderCommand → Prop
  | vertices {count instances : Nat} : Reads c (.vertices count instances) [.draw count instances]
  | indexed {index : ResourceId} {instances serial size : Nat} (hi : c.BindsIndices index serial size) :
      Reads c (.indexed index instances)
        [.setIndexBuffer serial .uint32, .drawIndexed (size / 4) instances]
  | indirect {arguments : ResourceId} {serial : Nat}
      (h : c.HoldsArguments arguments serial 0 drawArgumentsSize) :
      Reads c (.indirect arguments) [.drawIndirect serial 0]
  | indexedIndirect {index arguments : ResourceId} {bound size serial : Nat}
      (hi : c.BindsIndices index bound size)
      (h : c.HoldsArguments arguments serial 0 drawIndexedArgumentsSize) :
      Reads c (.indexedIndirect index arguments)
        [.setIndexBuffer bound .uint32, .drawIndexedIndirect serial 0]
  | multiIndirect {arguments : ResourceId} {count serial : Nat}
      (h : c.HoldsArguments arguments serial 0 (count * drawArgumentsSize)) :
      Reads c (.multiIndirect arguments count) [.multiDrawIndirect serial 0 count]
  | multiIndexedIndirect {index arguments : ResourceId} {count bound size serial : Nat}
      (hi : c.BindsIndices index bound size)
      (h : c.HoldsArguments arguments serial 0 (count * drawIndexedArgumentsSize)) :
      Reads c (.multiIndexedIndirect index arguments count)
        [.setIndexBuffer bound .uint32, .multiDrawIndexedIndirect serial 0 count]

theorem Accepted.reads {commands : List RenderCommand} (h : d.Accepted c.buffers) (hc : c.Sound)
    (hcount : ∀ id b, c.buffers.get? id = some b → b.kind.usage.index → b.size / 4 < UInt32.size)
    (hr : d.Records c.buffers commands) : d.Reads c commands := by
  have hindices {id : ResourceId} {serial : Nat} (h : c.buffers.HasIndices id)
      (hserial : c.buffers.DeviceBuffer id serial) : ∃ size, c.BindsIndices id serial size := by
    obtain ⟨b, hb, husage⟩ := h
    obtain ⟨b', hb', hserial⟩ := hserial
    cases hb.symm.trans hb'
    exact ⟨b.size, b, hb, hserial, husage, rfl, (hc.buffers id b hb).2.created serial hserial⟩
  have hblocks {kind : BufferKind} {id : ResourceId} {serial count bytes : Nat}
      (hkind : kind.usage.indirect) (h : c.buffers.HasBlocks kind id count bytes)
      (hserial : c.buffers.DeviceBuffer id serial) :
      c.HoldsArguments id serial 0 (count * bytes) := by
    obtain ⟨b, hb, rfl, -, hbytes⟩ := h
    exact hc.holdsArguments hserial ⟨b, hb, hkind, by omega⟩
  cases hr with
  | vertices => exact .vertices
  | @indexed index instances serial b hb hserial =>
    cases h with
    | indexed hi =>
      obtain ⟨b', hb', husage⟩ := hi
      cases hb.symm.trans hb'
      rw [Nat.mod_eq_of_lt (hcount index b hb husage)]
      exact .indexed ⟨b, hb, hserial, husage, rfl, (hc.buffers index b hb).2.created serial hserial⟩
  | indirect hserial =>
    cases h with
    | indirect h => exact .indirect (by simpa using hblocks rfl h hserial)
  | indexedIndirect hbound hserial =>
    cases h with
    | indexedIndirect hi h =>
      obtain ⟨size, hbinds⟩ := hindices hi hbound
      exact .indexedIndirect hbinds (by simpa using hblocks rfl h hserial)
  | multiIndirect hserial =>
    cases h with
    | multiIndirect h => exact .multiIndirect (hblocks rfl h hserial)
  | multiIndexedIndirect hbound hserial =>
    cases h with
    | multiIndexedIndirect hi h =>
      obtain ⟨size, hbinds⟩ := hindices hi hbound
      exact .multiIndexedIndirect hbinds (hblocks rfl h hserial)

end Draw

namespace IndexedDraws

/-- Creates what a pass on the surface needs, an index buffer of 26 bytes and the arguments of two
indexed draws. -/
def setup : Work ResourceError Unit := do
  SurfacePass.setup
  let _ ← Work.createBuffer .indexedStorage { size := 26 }
  let _ ← Work.createBuffer .indexedIndirect { size := 40 }

/-- The context with these resources. -/
def context : Context := after setup (.start {})

theorem reachable : context.Reachable := by
  refine Context.Reachable.runs ⟨.start {}, .refl⟩ ?_
  exact ((Work.createShader_runs _ _).bind fun _ => (Work.createShader_runs _ _).bind fun _ =>
    (Work.createSurfaceTexture_runs _).bind fun _ =>
    (Work.createColorAttachment_runs _).bind fun _ => runs_pure ()).bind fun _ =>
    (Work.createBuffer_runs _ _).bind fun _ => (Work.createBuffer_runs _ _).bind fun _ => runs_pure ()

theorem limits : context.device.limits = {} := by cbv

/-- A pass that makes two indexed draws. -/
def pass : RenderDesc where
  vertexShader := some ⟨1⟩
  fragmentShader := some ⟨2⟩
  draw := .multiIndexedIndirect ⟨5⟩ ⟨6⟩ 2
  colors := [⟨4⟩]

/-- What compiling the pass leaves. -/
def compiled : Context := after pass.compile context

/-- Compiles the pass and records it. -/
def recorded : Work CompileError Unit := do
  let r ← pass.compile
  (r.build : Work ResourceError Unit)

theorem compiles : ∃ r, pass.compile context = .ok r compiled ∧
    (after r.build compiled).device.encoded ≠ compiled.device.encoded := by
  have hout : (outcome pass.compile context).isOk = true := by cbv
  have hlength : (after recorded context).device.encoded.length = 1 := by cbv
  have hnone : compiled.device.encoded.length = 0 := by cbv
  refine exists_recorded_of_isOk hout fun heq => ?_
  have hsame : 1 = 0 := hlength.symm.trans ((congrArg List.length heq).trans hnone)
  omega

end IndexedDraws

end PassForge
