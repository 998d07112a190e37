import PassForge.Proofs.Pass.Checked
import PassForge.Proofs.Pass.Packing
import PassForge.Proofs.Pass.Replay
import PassForge.Proofs.Pass.Standing

/-!
# Arguments that dispatches read

A dispatch can read its numbers of workgroups from a buffer.

* `Context.HoldsArguments`: some bytes of a device buffer are there and can be read as arguments.
* `Dispatch.Fits` is what an offset into a buffer has to satisfy, and `Dispatch.Verdict` what the check
  yields. The check adds in 64 bits, so it fails in a way of its own next to their end.
* `RenderPass.build_encodes`, `ComputePass.build_encodes`: whatever a recording encodes of its pass is
  encoded in a context that steps lead to.
* `dispatch_spec` is the whole statement.
-/

namespace PassForge

open Context (Arrange Lasting Refresh Step)
open Relation (ReflTransGen)

variable {c c' : Context} {id : ResourceId} {b : Buffer} {serial offset bytes : Nat}

/-! ## Bytes of device buffers -/

namespace Context

/-- The device buffer of a buffer was made for arguments to be read from it, and has so many bytes from
an offset on. -/
def HoldsArguments (c : Context) (id : ResourceId) (serial offset bytes : Nat) : Prop :=
  ∃ b, c.buffers.get? id = some b ∧ b.device = some serial ∧ b.kind.usage.indirect ∧
    .bufferCreated serial b.label b.size b.kind.usage ∈ c.device.trace ∧ offset + bytes ≤ b.size

/-- In a sound context, the device buffer is as large as the buffer that it was made for. -/
theorem Sound.holdsArguments (hc : c.Sound) (h : c.buffers.DeviceBuffer id serial)
    (hb : ∃ b, c.buffers.get? id = some b ∧ b.kind.usage.indirect ∧ offset + bytes ≤ b.size) :
    c.HoldsArguments id serial offset bytes := by
  obtain ⟨b, hget, hserial⟩ := h
  obtain ⟨b', hget', husage, hbytes⟩ := hb
  cases hget.symm.trans hget'
  exact ⟨b, hget, hserial, husage, (hc.buffers id b hget).2.created serial hserial, hbytes⟩

end Context

/-! ## Recordings -/

/-- If recording a pass encodes it, it does so where steps lead to. -/
theorem RenderPass.build_encodes (r : RenderPass) (c : Context) :
    (after r.build c).device.encoded = c.device.encoded ∨
      ∃ mid colors depth commands, c.Encodes mid (.renderPass r.label colors depth commands) ∧
        r.Records mid commands ∧ ReflTransGen Step c mid := by
  have hstep (p : SyncPoint) (c c' : Context) : Refresh p c c' → Step c c' := Refresh.step
  cases hsync : r.sync.run .before c with
  | error e c₁ =>
    obtain ⟨hbuild, hencoded⟩ := build_error_before hsync
    exact .inl (after_error hbuild ▸ hencoded)
  | ok u c₁ =>
    by_cases hcolors : r.colors = []
    · rw [build_of_nil hcolors, after_ok hsync]
      exact .inl (SyncPlan.run_synced hsync).encoded
    cases hencode : r.encode c₁ with
    | error e c₂ =>
      obtain ⟨hbuild, hencoded⟩ := build_error_encode hcolors hsync hencode
      exact .inl (after_error hbuild ▸ hencoded)
    | ok v mid =>
      obtain ⟨colors, depth, commands, hpass, hrecords⟩ := encodes hsync hencode
      obtain ⟨_, _, _, c₂, harrange, -, rfl⟩ := encode_eq_ok hencode
      have hfirst := (r.sync.run_within hstep .before).of_eq_ok hsync
      have hsecond := ReflTransGen.mono (fun _ _ => Arrange.step) _ _ harrange
      exact .inr ⟨_, colors, depth, commands, hpass, hrecords,
        hfirst.trans (hsecond.tail (.encode rfl))⟩

/-- If recording a pass encodes it, it does so where steps lead to, whatever its hook does then. -/
theorem ComputePass.build_encodes (r : ComputePass) (c : Context) :
    (after r.build c).device.encoded = c.device.encoded ∨
      ∃ mid commands, c.Encodes mid (.computePass r.label commands) ∧ r.Records mid commands ∧
        ReflTransGen Step c mid := by
  have hstep (p : SyncPoint) (c c' : Context) : Refresh p c c' → Step c c' := Refresh.step
  cases hsync : r.sync.run .before c with
  | error e c₁ =>
    obtain ⟨hbuild, hencoded⟩ := build_error_before hsync
    exact .inl (after_error hbuild ▸ hencoded)
  | ok u c₁ =>
    cases hencode : r.encode c₁ with
    | error e c₂ =>
      obtain ⟨hbuild, hencoded⟩ := build_error_encode hsync hencode
      exact .inl (after_error hbuild ▸ hencoded)
    | ok v mid =>
      obtain ⟨commands, hpass, hrecords⟩ := encodes hsync hencode
      have hfirst := (r.sync.run_within hstep .before).of_eq_ok hsync
      have hsecond := (r.encode_within (fun _ _ => Arrange.step) fun _ _ => .encode).of_eq_ok hencode
      exact .inr ⟨mid, commands, hpass, hrecords, hfirst.trans hsecond⟩

/-- If what is compiled is recorded at once and that encodes something, recording it does. -/
theorem exists_recorded_of_isOk {α : Type} {compile : Work CompileError α}
    {build : α → Work ResourceError Unit} (hout : (outcome compile c).isOk)
    (hencoded : (after (do let r ← compile; build r) c).device.encoded ≠
      (after compile c).device.encoded) :
    ∃ r, compile c = .ok r (after compile c) ∧
      (after (build r) (after compile c)).device.encoded ≠ (after compile c).device.encoded := by
  cases h : outcome compile c with
  | error e =>
    rw [h] at hout
    cases hout
  | ok r =>
    have hcompile : compile c = .ok r (after compile c) := eq_ok_of_outcome h
    refine ⟨r, hcompile, ?_⟩
    rwa [after_bind_of_ok hcompile, after_lift] at hencoded

/-! ## The check -/

namespace Dispatch

/-- Arguments can be read from a buffer, and those of a dispatch lie in it at an offset. -/
structure Fits (b : Buffer) (offset : Nat) : Prop where
  usage : b.kind.usage.indirect
  aligned : 4 ∣ offset
  inside : offset + dispatchArgumentsSize ≤ b.size

/-- What checking a dispatch against a registered buffer yields. -/
inductive Verdict (id : ResourceId) (b : Buffer) (offset : Nat) : Except CompileError Unit → Prop
  | fits (h : Fits b offset) (hend : offset + dispatchArgumentsSize < UInt64.size) :
      Verdict id b offset (.ok ())
  | usage (h : ¬b.kind.usage.indirect) :
      Verdict id b offset (.error (.invalidDispatch (.noIndirectUsage id)))
  | place (husage : b.kind.usage.indirect) (h : ¬Fits b offset)
      (hend : 4 ∣ offset → offset + dispatchArgumentsSize < UInt64.size) :
      Verdict id b offset (.error (.invalidDispatch (.argumentsDoNotFit offset id b.size)))
  | overflow (husage : b.kind.usage.indirect) (haligned : 4 ∣ offset)
      (hend : UInt64.size ≤ offset + dispatchArgumentsSize) :
      Verdict id b offset (.error .addressOverflow)

theorem checkArguments_verdict {buffers : Store Buffer} (h : buffers.get? id = some b) :
    Verdict id b offset (checkArguments buffers id offset) := by
  unfold checkArguments
  rw [Store.require_eq_ok_iff.2 h]
  simp only [bind, Except.bind, throw, throwThe, MonadExceptOf.throw, pure, Except.pure]
  split
  next h => exact .usage (by simpa using h)
  next husage =>
    replace husage : b.kind.usage.indirect := by simpa using husage
    split
    next h => exact .place husage (fun hfits => h (Nat.mod_eq_zero_of_dvd hfits.aligned)) (by omega)
    next haligned =>
      split
      next hend => exact .overflow husage (by omega) hend
      next hend =>
        split
        next h => exact .place husage (fun hfits => absurd hfits.inside (by omega)) (by omega)
        next h => exact .fits ⟨husage, by omega, by omega⟩ (by omega)

theorem Verdict.eq_ok_iff {answer : Except CompileError Unit} (h : Verdict id b offset answer)
    (hsize : b.size < UInt64.size) : answer = .ok () ↔ Fits b offset := by
  cases h with
  | fits h => simp [h]
  | usage h => simpa using fun hfits : Fits b offset => h hfits.usage
  | place _ h => simp [h]
  | overflow _ _ hend => simpa using fun hfits : Fits b offset => absurd hfits.inside (by omega)

theorem Verdict.eq_overflow_iff {answer : Except CompileError Unit} (h : Verdict id b offset answer) :
    answer = .error .addressOverflow ↔
      b.kind.usage.indirect ∧ 4 ∣ offset ∧ UInt64.size ≤ offset + dispatchArgumentsSize := by
  cases h with
  | fits h hend => simp [hend]
  | usage h => simp [h]
  | place _ _ hend => simpa using fun _ haligned => hend haligned
  | overflow husage haligned hend => simp [husage, haligned, hend]

/-- An accepted dispatch that reads its numbers reads them from a registered buffer that has them. -/
theorem exists_fits {limits : Limits}
    (h : check (.indirect id offset) c.buffers limits = .ok ()) :
    ∃ b, c.buffers.get? id = some b ∧ Fits b offset := by
  replace h : checkArguments c.buffers id offset = .ok () := h
  obtain ⟨b, hb, -⟩ := bind_eq_ok_iff.1 h
  have hget := Store.require_eq_ok_iff.1 hb
  have hverdict : Verdict id b offset (checkArguments c.buffers id offset) :=
    checkArguments_verdict hget
  rw [h] at hverdict
  cases hverdict with
  | fits hfits => exact ⟨b, hget, hfits⟩

/-- The command of a dispatch reads only bytes that are there. -/
inductive Reads (c : Context) : Dispatch → ComputeCommand → Prop
  | workgroups {x y z : Nat} : Reads c (.workgroups x y z) (.dispatch x y z)
  | indirect {id : ResourceId} {offset serial : Nat}
      (h : c.HoldsArguments id serial offset dispatchArgumentsSize) :
      Reads c (.indirect id offset) (.dispatchIndirect serial offset)

theorem Records.reads {d : Dispatch} {limits : Limits} {command : ComputeCommand} (hc : c.Sound)
    (h : d.check c.buffers limits = .ok ()) (hr : d.Records c.buffers command) :
    d.Reads c command := by
  cases hr with
  | workgroups => exact .workgroups
  | indirect hserial =>
    obtain ⟨b, hb, hfits⟩ := exists_fits h
    exact .indirect (hc.holdsArguments hserial ⟨b, hb, hfits.usage, hfits.inside⟩)

end Dispatch

/-- The dispatch of a compiled pass is accepted wherever steps lead to. -/
theorem ComputeDesc.check_of_compile {d : ComputeDesc} {r : ComputePass} (hc : c.Reachable)
    (h : d.compile c = .ok r c') {c₁ : Context} (hsteps : ReflTransGen Step c' c₁) :
    r.dispatch = d.dispatch ∧ ∃ limits, d.dispatch.check c₁.buffers limits = .ok () := by
  obtain ⟨p, c₂, c₀, -, hf, hchecked, hlasting⟩ := compile_checked hc h
  have hc' : c'.Reachable := hc.steps (d.compile_runs.of_eq_ok h)
  have hlasts : Lasting c₀ c₁ := hlasting.trans (Context.lasting_of_steps hc' hsteps)
  exact ⟨(finish_eq_ok hf).2.1, _, Dispatch.check_stands hlasts hchecked⟩

/-- **When a dispatch is accepted, and what it reads.** In a context that operations lead to, on a device
whose limits for sizes are 64-bit numbers, checking a dispatch against a registered buffer:

* accepts it exactly if arguments can be read from the buffer and the twelve bytes at the offset, which
  is a multiple of four, are in the buffer;
* overflows exactly if arguments can be read from the buffer, the offset is a multiple of four, and the
  end of the twelve bytes leaves 64 bits, so that they are in no buffer;
* otherwise says what is wrong with the buffer or the offset.

Whatever happens after a pass was compiled, a recording that encodes the pass encodes one dispatch, and
that reads only bytes of the device buffer. -/
theorem dispatch_spec (hc : c.Reachable)
    (hl : ∀ k : BufferKind, k.sizeLimit c.device.limits ≤ UInt64.size) :
    (∀ (id : ResourceId) (b : Buffer) (offset : Nat), c.buffers.get? id = some b →
      let answer := (Dispatch.indirect id offset).check c.buffers c.device.limits
      (answer = .ok () ↔ Dispatch.Fits b offset) ∧
      (answer = .error .addressOverflow ↔ b.kind.usage.indirect ∧ 4 ∣ offset ∧
        UInt64.size ≤ offset + dispatchArgumentsSize) ∧
      Dispatch.Verdict id b offset answer) ∧
    ∀ (d : ComputeDesc) (r : ComputePass) (c₁ c₂ : Context), d.compile c = .ok r c₁ →
      ReflTransGen Step c₁ c₂ →
      (after r.build c₂).device.encoded = c₂.device.encoded ∨
        ∃ mid dispatch, d.dispatch.Reads mid dispatch ∧
          c₂.Encodes mid (.computePass r.label
            (.setPipeline r.pipeline :: r.bindGroups.mapIdx .setBindGroup ++ [dispatch])) := by
  refine ⟨fun id b offset hb => ?_, fun d r c₁ c₂ h hsteps => ?_⟩
  · have hsize : b.size < UInt64.size := Context.Orderly.size_lt ⟨hc.sound, hc.checked, hl⟩ hb
    have hverdict : Dispatch.Verdict id b offset (Dispatch.checkArguments c.buffers id offset) :=
      Dispatch.checkArguments_verdict hb
    exact ⟨hverdict.eq_ok_iff hsize, hverdict.eq_overflow_iff, hverdict⟩
  · obtain hnone | ⟨mid, commands, hencodes, ⟨dispatch, hdispatch, rfl⟩, hmid⟩ := r.build_encodes c₂
    · exact .inl hnone
    · have hc₁ : c₁.Reachable := hc.steps (d.compile_runs.of_eq_ok h)
      obtain ⟨heq, limits, hcheck⟩ := d.check_of_compile hc h (hsteps.trans hmid)
      rw [heq] at hdispatch
      exact .inr ⟨mid, dispatch, hdispatch.reads (hc₁.steps (hsteps.trans hmid)).sound hcheck, hencodes⟩

namespace ArgumentBuffer

/-- A compute shader without bindings. -/
def code : ShaderModule where
  globals := []
  entryPoints := [{ name := "main", stage := .pipeline .compute }]

/-- Creates a buffer of 32 bytes for arguments and the shader. -/
def setup : Work ResourceError Unit := do
  let _ ← Work.createBuffer .indirect { size := 32 }
  let _ ← Work.createShader .compute { code := code, entryPoint := "main" }

/-- The context with these resources. -/
def context : Context := after setup (.start {})

theorem reachable : context.Reachable := by
  refine Context.Reachable.runs ⟨.start {}, .refl⟩ ?_
  exact (Work.createBuffer_runs _ _).bind fun _ => (Work.createShader_runs _ _).bind fun _ =>
    runs_pure ()

theorem limits (k : BufferKind) : k.sizeLimit context.device.limits ≤ UInt64.size := by
  have hlimits : context.device.limits = {} := by cbv
  exact k.sizeLimit_le_of_default hlimits

/-- A pass whose dispatch reads the last twelve bytes of the buffer. -/
def pass : ComputeDesc where
  shader := some ⟨2⟩
  dispatch := .indirect ⟨1⟩ 20

/-- What compiling the pass leaves. -/
def compiled : Context := after pass.compile context

/-- Compiles the pass and records it. -/
def recorded : Work CompileError Unit := do
  let r ← pass.compile
  (r.build : Work ResourceError Unit)

theorem compiles : ∃ r, pass.compile context = .ok r compiled ∧
    (after r.build compiled).device.encoded ≠ compiled.device.encoded := by
  have hout : (outcome pass.compile context).isOk = true := by cbv
  have hlength : (after recorded context).device.encoded.length = 1 := by cbv
  have hnone : compiled.device.encoded.length = 0 := by cbv
  refine exists_recorded_of_isOk hout fun heq => ?_
  have hsame : 1 = 0 := hlength.symm.trans ((congrArg List.length heq).trans hnone)
  omega

theorem exists_buffer : ∃ b, context.buffers.get? ⟨1⟩ = some b ∧ b.kind = .indirect ∧ b.size = 32 := by
  have hbuffer : (context.buffers.get? ⟨1⟩).map (fun b => (b.kind, b.size)) = some (.indirect, 32) := by
    cbv
  obtain ⟨b, hb, heq⟩ := Option.map_eq_some_iff.1 hbuffer
  obtain ⟨hkind, hsize⟩ := Prod.mk.inj heq
  exact ⟨b, hb, hkind, hsize⟩

end ArgumentBuffer

/-- A dispatch that reads the last twelve bytes of its buffer is accepted, and none further on is. It is
recorded, and reads those bytes. -/
theorem dispatch_argumentBuffer : ∃ r mid serial,
    ArgumentBuffer.pass.compile ArgumentBuffer.context = .ok r ArgumentBuffer.compiled ∧
    ArgumentBuffer.compiled.Encodes mid (.computePass r.label
      (.setPipeline r.pipeline :: r.bindGroups.mapIdx .setBindGroup ++
        [.dispatchIndirect serial 20])) ∧
    mid.HoldsArguments ⟨1⟩ serial 20 12 ∧
    (Dispatch.indirect ⟨1⟩ 20).check ArgumentBuffer.context.buffers
      ArgumentBuffer.context.device.limits = .ok () ∧
    (Dispatch.indirect ⟨1⟩ 24).check ArgumentBuffer.context.buffers
      ArgumentBuffer.context.device.limits ≠ .ok () := by
  obtain ⟨r, hcompile, hencoded⟩ := ArgumentBuffer.compiles
  obtain ⟨b, hb, hkind, hsize⟩ := ArgumentBuffer.exists_buffer
  obtain ⟨hcheck, hrecords⟩ := dispatch_spec ArgumentBuffer.reachable ArgumentBuffer.limits
  obtain heq | ⟨mid, dispatch, hreads, hencodes⟩ := hrecords _ r _ _ hcompile .refl
  · exact absurd heq hencoded
  · cases hreads with
    | indirect h =>
      refine ⟨r, mid, _, hcompile, hencodes, h, ?_, ?_⟩
      · refine (hcheck ⟨1⟩ b 20 hb).1.2 ⟨hkind ▸ rfl, by decide, ?_⟩
        rw [hsize]
        decide
      · refine mt (hcheck ⟨1⟩ b 24 hb).1.1 fun hfits => ?_
        exact absurd (hsize ▸ hfits.inside) (by decide)

/-- At an offset next to the end of 64 bits the check overflows, although the buffer can hold arguments
and the offset is aligned, so that the answer could say that they do not fit. -/
theorem exists_dispatch_overflow : ∃ b, ArgumentBuffer.context.buffers.get? ⟨1⟩ = some b ∧
    b.kind = .indirect ∧ b.size = 32 ∧ ¬Dispatch.Fits b 18446744073709551608 ∧
    (Dispatch.indirect ⟨1⟩ 18446744073709551608).check ArgumentBuffer.context.buffers
      ArgumentBuffer.context.device.limits = .error .addressOverflow := by
  obtain ⟨b, hb, hkind, hsize⟩ := ArgumentBuffer.exists_buffer
  refine ⟨b, hb, hkind, hsize, fun hfits => absurd (hsize ▸ hfits.inside) (by decide), ?_⟩
  refine (Dispatch.checkArguments_verdict hb).eq_overflow_iff.2 ⟨?_, by decide, by decide⟩
  rw [hkind]
  rfl

end PassForge
