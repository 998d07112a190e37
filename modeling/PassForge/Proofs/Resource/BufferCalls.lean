import PassForge.Proofs.Context.Sound
import PassForge.Proofs.Resource.Updates

/-!
# Sequences of calls on a buffer

A `Call` is a call of one of the operations on a buffer. A call that fails does not end a sequence:
`afterCalls` is what all calls of a sequence leave.

* `hostWrites` are the writes that the calls of a sequence make for the host: those of the calls
  themselves and those that handlers ask for, as far as they fit.
* `Tracked` is the invariant: which device buffers have been made, and that the writes into the device
  buffer are the initial contents and then those of the host, in order. `Tracked.ready` and the like
  are the step lemmas, `Call.tracked` is about one call, and `tracked_afterCalls` the run lemma.
* `deviceWrites_spec` is the whole statement.
-/

namespace PassForge

/-- The buffer that an event makes, with what was asked for. -/
def Event.buffer? : Event → Option (Nat × Option String × Nat × BufferUsage)
  | .bufferCreated serial label size usage => some (serial, label, size, usage)
  | _ => none

/-- The write into a buffer that an event makes, with the buffer. -/
def Event.write? : Event → Option (Nat × BufferWrite)
  | .bufferWritten buffer offset data => some (buffer, { offset := offset, data := data })
  | _ => none

namespace Buffer

variable {l : Live Buffer} {b : Buffer} {d : Device} {serial : Nat}

/-! ## Calls -/

/-- A call of an operation on a buffer. -/
inductive Call where
  | handle
  | staging
  | write (w : BufferWrite)
  | acquire (p : SyncPoint)
  | setHandler (h : Handler BufferWrite)

namespace Call

/-- What a call does, without what it yields. -/
def action : Call → Action Buffer Unit
  | handle => do let _ ← Buffer.handle
  | staging => do let _ ← Buffer.staging
  | write w => Buffer.write w
  | acquire p => Buffer.acquire p
  | setHandler h => Action.change (Buffer.setHandler h)

/-- The writes that a call makes for the host: its own if it fits, and those that the handler asks for
up to the first one that does not fit. -/
def hostWrites (l : Live Buffer) : Call → List BufferWrite
  | write w => [w].takeWhile fun w => w.Fits l.object
  | acquire p => (Handler.wanted l.object.handler p).takeWhile fun w => w.Fits l.object
  | handle | staging | setHandler _ => []

end Call

/-- What calls leave that are made one after the other, whether they succeed or fail. -/
def afterCalls (cs : List Call) (l : Live Buffer) : Live Buffer :=
  cs.foldl (fun l c => after c.action l) l

/-- The writes that the calls of a sequence make for the host. -/
def hostWrites : List Call → Live Buffer → List BufferWrite
  | [], _ => []
  | c :: cs, l => c.hostWrites l ++ hostWrites cs (after c.action l)

/-! ## The invariant -/

/-- The device buffers that a buffer has, with what was asked for: its own and the staging buffer. -/
def deviceBuffers (b : Buffer) : List (Nat × Option String × Nat × BufferUsage) :=
  (b.device.map fun serial => (serial, b.label, b.size, b.kind.usage)).toList ++
    (b.stage.map fun serial => (serial, b.label, b.size, stagingUsage)).toList

/-- A buffer and its device, after calls on a buffer `b` without device objects on a device `d`. Since
then `new` has been appended to the trace, and the host has made the writes `ws`. -/
structure Tracked (b : Buffer) (d : Device) (l : Live Buffer) (new : List Event)
    (ws : List BufferWrite) : Prop where
  fixed : l.object.fixed = b.fixed
  fresh : l.object.device = none → l.object.contents = b.contents ∧ ws = []
  stage : l.object.stage.isSome → b.kind = .map
  trace : l.device.trace = d.trace ++ new
  buffers : (new.filterMap Event.buffer?).Perm l.object.deviceBuffers
  writes : new.filterMap Event.write? = l.object.device.toList.flatMap fun serial =>
    (b.initialWrites ++ ws).map fun w => (serial, w)
  fits : ∀ w ∈ ws, w.Fits b

theorem filterMap_write?_written (serial : Nat) (ws : List BufferWrite) :
    (ws.map (written serial)).filterMap Event.write? = ws.map fun w => (serial, w) := by
  rw [List.filterMap_map]
  exact congrFun List.filterMap_eq_map ws

theorem filterMap_buffer?_written (serial : Nat) (ws : List BufferWrite) :
    (ws.map (written serial)).filterMap Event.buffer? = [] := by
  rw [List.filterMap_map]
  exact List.filterMap_eq_nil_iff.2 fun _ _ => rfl

namespace Tracked

variable {new : List Event} {ws : List BufferWrite}

theorem of_create (hd : b.device = none) (hs : b.stage = none) : Tracked b d ⟨b, d⟩ [] [] where
  fixed := rfl
  fresh _ := ⟨rfl, rfl⟩
  stage h := by simp [hs] at h
  trace := (List.append_nil _).symm
  buffers := by simp [deviceBuffers, hd, hs]
  writes := by simp [hd]
  fits := List.forall_mem_nil _

/-- A change of the handler, and events that neither make a buffer nor write into one. -/
theorem same (h : Tracked b d l new ws) (es : List Event)
    (hes : ∀ e ∈ es, e.buffer? = none ∧ e.write? = none) {l' : Live Buffer}
    (htrace : l'.device.trace = l.device.trace ++ es)
    (hobject : { l'.object with handler := none } = { l.object with handler := none }) :
    Tracked b d l' (new ++ es) ws := by
  have hfixed : l'.object.fixed = l.object.fixed := (congrArg Buffer.fixed hobject :)
  have hdevice : l'.object.device = l.object.device := (congrArg Buffer.device hobject :)
  have hbuffers : l'.object.deviceBuffers = l.object.deviceBuffers :=
    (congrArg deviceBuffers hobject :)
  have hcontents : l'.object.contents = l.object.contents := (congrArg Buffer.contents hobject :)
  have hstage : l'.object.stage = l.object.stage := (congrArg Buffer.stage hobject :)
  exact {
    fixed := hfixed.trans h.fixed
    fresh := by
      rw [hdevice, hcontents]
      exact h.fresh
    stage := hstage ▸ h.stage
    trace := by rw [htrace, h.trace, List.append_assoc]
    buffers := by
      rw [List.filterMap_append, List.filterMap_eq_nil_iff.2 fun e he => (hes e he).1,
        List.append_nil, hbuffers]
      exact h.buffers
    writes := by
      rw [List.filterMap_append, List.filterMap_eq_nil_iff.2 fun e he => (hes e he).2,
        List.append_nil, hdevice]
      exact h.writes
    fits := h.fits }

/-- The first use makes the device buffer and writes the initial contents into it. -/
theorem ready (h : Tracked b d l new ws) : Tracked b d (Buffer.ready l) (new ++ firstUse l) ws := by
  have htrace := trace_ready l
  cases hd : l.object.device with
  | some serial =>
    obtain ⟨hready, hfirst⟩ := ready_of_some hd
    rwa [hready, hfirst, List.append_nil]
  | none =>
    -- Nothing has been written yet, so that the initial contents come first.
    obtain ⟨hready, hfirst⟩ := ready_of_none hd
    obtain ⟨hcontents, rfl⟩ := h.fresh hd
    have hinitial : l.object.initialWrites = b.initialWrites := by
      rw [initialWrites, hcontents, initialWrites]
    have hbuffers := h.buffers
    have hwrites := h.writes
    rw [hd] at hwrites
    simp only [deviceBuffers, hd] at hbuffers
    rw [hready, hfirst] at htrace ⊢
    exact {
      fixed := h.fixed
      fresh := fun hnone => nomatch hnone
      stage := h.stage
      trace := by rw [htrace, h.trace, List.append_assoc]
      buffers := by
        rw [List.filterMap_append, List.filterMap_cons_some (by rfl), filterMap_buffer?_written]
        exact List.perm_append_comm.trans (hbuffers.cons _)
      writes := by
        rw [List.filterMap_append, List.filterMap_cons_none (by rfl), filterMap_write?_written, hwrites,
          hinitial]
        simp [made]
      fits := h.fits }

/-- The host makes writes that fit. -/
theorem wrote (h : Tracked b d l new ws) (hs : l.object.device = some serial)
    {added : List BufferWrite} (hfits : ∀ w ∈ added, w.Fits b) :
    Tracked b d (Buffer.wrote serial added l) (new ++ added.map (written serial)) (ws ++ added) where
  fixed := h.fixed
  fresh hnone := nomatch hs.symm.trans hnone
  stage := h.stage
  trace := by
    rw [← List.append_assoc, ← h.trace]
    rfl
  buffers := by
    rw [List.filterMap_append, filterMap_buffer?_written, List.append_nil]
    exact h.buffers
  writes := by
    have hwrites := h.writes
    rw [hs] at hwrites
    rw [List.filterMap_append, filterMap_write?_written, hwrites]
    simp [Buffer.wrote, hs]
  fits := List.forall_mem_append.2 ⟨h.fits, hfits⟩

/-- The first use of the staging buffer makes it. -/
theorem staged (h : Tracked b d l new ws) (hk : l.object.kind = .map) :
    Tracked b d (Buffer.staged l) (new ++ firstStaging l) ws := by
  have htrace := trace_staged l
  have hkind : l.object.kind = b.kind := (congrArg Buffer.kind h.fixed :)
  cases hs : l.object.stage with
  | some serial =>
    obtain ⟨hstaged, hfirst⟩ := staged_of_some hs
    rwa [hstaged, hfirst, List.append_nil]
  | none =>
    obtain ⟨hstaged, hfirst⟩ := staged_of_none hs
    have hbuffers := h.buffers
    simp only [deviceBuffers, hs, Option.map_none, Option.toList_none, List.append_nil] at hbuffers
    rw [hstaged, hfirst] at htrace ⊢
    exact {
      fixed := h.fixed
      fresh := h.fresh
      stage := fun _ => hkind.symm.trans hk
      trace := by rw [htrace, h.trace, List.append_assoc]
      buffers := by
        rw [List.filterMap_append]
        exact hbuffers.append_right _
      writes := by
        rw [List.filterMap_append, List.filterMap_cons_none (by rfl), List.filterMap_nil, List.append_nil]
        exact h.writes
      fits := h.fits }

theorem asked (h : Tracked b d l new ws) (p : SyncPoint) :
    Tracked b d (Buffer.asked p l) (new ++ Handler.callEvents l.object.handler p) ws := by
  refine h.same _ (fun e he => ?_) rfl rfl
  obtain ⟨handler, -, rfl⟩ := List.mem_map.1 he
  exact ⟨rfl, rfl⟩

theorem copied (h : Tracked b d l new ws) (hk : l.object.kind = .map) (serial : Nat) :
    Tracked b d (Buffer.copied serial l) (new ++ copyEvents serial l) ws := by
  rw [copyEvents, ← List.append_assoc]
  exact (h.staged hk).same _ (by simp [Event.buffer?, Event.write?]) rfl rfl

end Tracked

/-- Bringing a buffer up to date makes the writes that its handler asks for, as far as they fit. -/
theorem tracked_of_acquire {new : List Event} {ws : List BufferWrite} (p : SyncPoint)
    (h : Tracked b d l new ws) :
    ∃ es, Tracked b d (after (acquire p) l) (new ++ es) (ws ++ (Call.acquire p).hostWrites l) := by
  obtain ⟨made, serial, hs, hmade, hafter⟩ := acquire_eq p l
  obtain ⟨hfixed, -⟩ := ready_object l
  have hhost : (Call.acquire p).hostWrites l = made := hmade.eq_takeWhile.symm
  have hfits : ∀ w ∈ made, w.Fits b := fun w hw => (hmade.fits w hw).fixed h.fixed
  have hs' : (asked p (ready l)).object.device = some serial := hs
  have hwrote := (h.ready.asked p).wrote hs' hfits
  rw [hafter, hhost]
  split
  · next hcopies =>
    have hkind : (ready l).object.kind = l.object.kind := (congrArg Buffer.kind hfixed :)
    exact ⟨_, by simpa only [List.append_assoc] using hwrote.copied (hkind.trans hcopies.1) serial⟩
  · exact ⟨_, by simpa only [List.append_assoc] using hwrote⟩

/-- A call keeps the invariant, with more of a trace and the writes that it makes for the host. -/
theorem Call.tracked {new : List Event} {ws : List BufferWrite} (c : Call) (h : Tracked b d l new ws) :
    ∃ es, Tracked b d (after c.action l) (new ++ es) (ws ++ c.hostWrites l) := by
  have hnothing (hafter : after c.action l = l) (hhost : c.hostWrites l = []) :
      ∃ es, Tracked b d (after c.action l) (new ++ es) (ws ++ c.hostWrites l) := by
    refine ⟨[], ?_⟩
    rwa [hafter, hhost, List.append_nil, List.append_nil]
  cases c with
  | handle =>
    obtain ⟨serial, hhandle, -⟩ := handle_eq l
    refine ⟨firstUse l, ?_⟩
    rw [action, after_discard, after_ok hhandle, hostWrites, List.append_nil]
    exact h.ready
  | staging =>
    by_cases hk : l.object.kind = .map
    · refine ⟨firstStaging l, ?_⟩
      rw [action, after_discard, after_ok (staging_eq hk), hostWrites, List.append_nil]
      exact h.staged hk
    · refine hnothing ?_ rfl
      rw [action, after_discard, after_error (staging_of_ne hk)]
  | write w =>
    by_cases hw : w.Fits l.object
    · obtain ⟨serial, hs, hwrite⟩ := write_of_fits hw
      have hhost : (write w).hostWrites l = [w] := by simp [hostWrites, hw]
      refine ⟨firstUse l ++ [w].map (written serial), ?_⟩
      rw [action, after_ok hwrite, hhost, ← List.append_assoc]
      exact h.ready.wrote hs (List.forall_mem_singleton.2 (hw.fixed h.fixed))
    · obtain ⟨e, -, hwrite⟩ := write_of_not_fits hw
      exact hnothing (after_error hwrite) (by simp [hostWrites, hw])
  | acquire p => exact tracked_of_acquire p h
  | setHandler handler =>
    have hset : Tracked b d (after (setHandler handler).action l) (new ++ []) ws :=
      h.same [] (List.forall_mem_nil _) (List.append_nil _).symm rfl
    exact ⟨[], by rwa [hostWrites, List.append_nil ws]⟩

/-- Whatever calls are made, they keep the invariant. -/
theorem tracked_afterCalls {new : List Event} {ws : List BufferWrite} (cs : List Call)
    (h : Tracked b d l new ws) :
    ∃ es, Tracked b d (afterCalls cs l) (new ++ es) (ws ++ hostWrites cs l) := by
  induction cs generalizing l new ws with
  | nil => exact ⟨[], by simpa [afterCalls, hostWrites] using h⟩
  | cons c cs ih =>
    obtain ⟨es, h⟩ := c.tracked h
    obtain ⟨es', h'⟩ := ih h
    exact ⟨es ++ es', by simpa only [afterCalls, hostWrites, List.foldl_cons, List.append_assoc] using h'⟩

/-! ## From the creation on -/

/-- What a buffer is created with, and that its initial contents fit. -/
theorem eq_of_create {limits : Limits} {kind : BufferKind} {desc : BufferDesc} {id : ResourceId}
    (h : create limits kind desc id = .ok b) :
    b = { id := id, label := desc.label, kind := kind, size := desc.size, contents := desc.contents,
          handler := desc.handler } ∧
    ∀ w ∈ b.initialWrites, w.Fits b := by
  unfold create at h
  obtain ⟨-, h⟩ := of_check_eq_ok h
  obtain ⟨-, h⟩ := of_check_eq_ok h
  obtain ⟨-, h⟩ := of_check_eq_ok h
  cases hc : desc.contents with
  | none =>
    simp only [hc] at h
    cases h
    exact ⟨rfl, List.forall_mem_nil _⟩
  | some contents =>
    simp only [hc] at h
    obtain ⟨_, hcheck, h⟩ := bind_eq_ok_iff.1 h
    cases h
    refine ⟨rfl, List.forall_mem_singleton.2 ?_⟩
    by_contra hfits
    obtain ⟨e, -, herror⟩ := checkWrite_of_not_fits hfits
    exact nomatch hcheck.symm.trans herror

/-- **What a device is asked for on behalf of a buffer, over every sequence of calls from its creation.**

The device makes the buffer at most once, and for a map buffer its staging buffer at most once. The
device buffer gets the initial contents first and once, and then the writes of the host that fit, in
order. Every write has an offset and a length that are multiples of four and ends in the buffer. -/
theorem deviceWrites_spec {limits : Limits} {kind : BufferKind} {desc : BufferDesc} {id : ResourceId}
    (h : create limits kind desc id = .ok b) (d : Device) (cs : List Call) :
    let l := afterCalls cs ⟨b, d⟩
    ∃ new, l.device.trace = d.trace ++ new ∧
      (new.filterMap Event.buffer?).Perm
        ((l.object.device.map fun serial => (serial, desc.label, desc.size, kind.usage)).toList ++
          (l.object.stage.map fun serial => (serial, desc.label, desc.size, stagingUsage)).toList) ∧
      (l.object.stage.isSome → kind = .map) ∧
      new.filterMap Event.write? = (l.object.device.toList.flatMap fun serial =>
        (desc.contents.toList.map (BufferWrite.mk 0) ++ hostWrites cs ⟨b, d⟩).map fun w => (serial, w)) ∧
      ∀ serial w, (serial, w) ∈ new.filterMap Event.write? → l.object.device = some serial ∧
        w.offset % 4 = 0 ∧ w.data.size % 4 = 0 ∧ w.offset + w.data.size ≤ desc.size := by
  intro l
  obtain ⟨heq, hinitial⟩ := eq_of_create h
  have hnew : Tracked b d ⟨b, d⟩ [] [] := .of_create (heq ▸ rfl) (heq ▸ rfl)
  obtain ⟨new, hl⟩ := tracked_afterCalls cs hnew
  rw [List.nil_append, List.nil_append] at hl
  subst heq
  have hlabel : l.object.label = desc.label := (congrArg Buffer.label hl.fixed :)
  have hsize : l.object.size = desc.size := (congrArg Buffer.size hl.fixed :)
  have hkind : l.object.kind = kind := (congrArg Buffer.kind hl.fixed :)
  have hbuffers := hl.buffers
  rw [deviceBuffers, hlabel, hsize, hkind] at hbuffers
  refine ⟨new, hl.trace, hbuffers, hl.stage, hl.writes, fun serial w hw => ?_⟩
  rw [hl.writes] at hw
  obtain ⟨serial', hs, hw⟩ := List.mem_flatMap.1 hw
  obtain ⟨w', hw, heq⟩ := List.mem_map.1 hw
  cases heq
  have hfits : w.Fits _ := (List.mem_append.1 hw).elim (hinitial w) (hl.fits w)
  exact ⟨Option.mem_toList.1 hs, hfits.offset, hfits.length, hfits.bounds⟩

namespace Mapped

/-- A handler that asks for two writes after the first pass. -/
def handler : Handler BufferWrite := .scripted []
  [some [{ offset := 4, data := #[5, 6, 7, 8] }, { offset := 12, data := #[0, 0, 0, 0, 0, 0, 0, 0] }]]

/-- The description of a map buffer into which the first of them fits. -/
def desc : BufferDesc := { size := 16, contents := some #[1, 2, 3, 4], handler := some handler }

/-- The buffer that is created from it. -/
def buffer : Buffer where
  id := ⟨7⟩
  label := none
  kind := .map
  size := 16
  contents := some #[1, 2, 3, 4]
  handler := some handler

/-- Calls that make the staging buffer first, with a write at the largest aligned 64-bit offset. -/
def calls : List Call :=
  [.staging, .write { offset := 18446744073709551612, data := #[0, 0, 0, 0] },
    .write { offset := 8, data := #[9, 9, 9, 9] }, .acquire .after]

end Mapped

/-- Writes that do not fit are left out, and the staging buffer may be made first. -/
theorem deviceWrites_mapped : create {} .map Mapped.desc ⟨7⟩ = .ok Mapped.buffer ∧
    ∃ new, (afterCalls Mapped.calls ⟨Mapped.buffer, .start {}⟩).device.trace =
        (Device.start {}).trace ++ new ∧
      (new.filterMap Event.buffer?).Perm
        [(4, none, 16, BufferKind.map.usage), (3, none, 16, stagingUsage)] ∧
      new.filterMap Event.write? = [(4, { offset := 0, data := #[1, 2, 3, 4] }),
        (4, { offset := 8, data := #[9, 9, 9, 9] }), (4, { offset := 4, data := #[5, 6, 7, 8] })] := by
  have hcreate : create {} .map Mapped.desc ⟨7⟩ = .ok Mapped.buffer := rfl
  have hhost : hostWrites Mapped.calls ⟨Mapped.buffer, .start {}⟩ =
      [{ offset := 8, data := #[9, 9, 9, 9] }, { offset := 4, data := #[5, 6, 7, 8] }] := by cbv
  have hdevice : (afterCalls Mapped.calls ⟨Mapped.buffer, .start {}⟩).object.device = some 4 := by cbv
  have hstage : (afterCalls Mapped.calls ⟨Mapped.buffer, .start {}⟩).object.stage = some 3 := by cbv
  obtain ⟨new, htrace, hbuffers, -, hwrites, -⟩ := deviceWrites_spec hcreate (.start {}) Mapped.calls
  rw [hdevice, hstage] at hbuffers
  rw [hdevice, hhost] at hwrites
  exact ⟨hcreate, new, htrace, hbuffers, hwrites⟩

end Buffer

end PassForge
