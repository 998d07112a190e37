import PassForge.Proofs.Device
import PassForge.Proofs.Run
import PassForge.Resource.Buffer

/-!
# What happens to buffers

`Buffer.Step` lists every change that an action makes to a buffer and its device. Each action takes
such steps and no others, so what every step keeps is kept by any work on a buffer. Binding a buffer
makes one change only, `Buffer.Use`; bringing it up to date makes those of `Buffer.Refresh`.

* `Buffer.Sound`: the device buffer was asked for with the label, the size and the usage of the
  buffer.
* `Step.serves`, `Step.id` and `Step.sound` are what every step keeps.
* `Buffer.bare` is a buffer without what binding it leaves on it.
-/

namespace PassForge.Buffer

variable {l l' : Live Buffer} {b : Buffer} {d d' : Device}

/-! ## Steps -/

/-- A buffer and its device after the first use of the buffer. -/
def made (l : Live Buffer) : Live Buffer where
  object := { l.object with device := some l.device.nextSerial, contents := none }
  device :=
    let d := (l.device.createBuffer l.object.label l.object.size l.object.kind.usage).2
    match l.object.contents with
    | some bytes => d.log (.bufferWritten l.device.nextSerial 0 bytes)
    | none => d

/-- A change that binding a buffer makes. -/
inductive Use : Live Buffer → Live Buffer → Prop
  | make {l : Live Buffer} (h : l.object.device = none) : Use l (made l)

/-- A change of a buffer and its device. -/
inductive Step : Live Buffer → Live Buffer → Prop
  | use {l l' : Live Buffer} (h : Use l l') : Step l l'
  | write {b : Buffer} {d : Device} {serial : Nat} {w : BufferWrite} (h : b.device = some serial)
      (hw : checkWrite b.id b.size w.offset w.data.size = .ok ()) :
      Step ⟨b, d⟩ ⟨b, d.log (.bufferWritten serial w.offset w.data)⟩
  | ask {b : Buffer} {d : Device} {h : Handler BufferWrite} (p : SyncPoint)
      (hb : b.handler = some h) :
      Step ⟨b, d⟩ ⟨{ b with handler := some (h.called p) }, d.log (.handlerCalled p (h.callsAt p))⟩
  | stage {b : Buffer} {d : Device} (hk : b.kind = .map) (hs : b.stage = none) :
      Step ⟨b, d⟩ ⟨{ b with stage := some d.nextSerial },
        (d.createBuffer b.label b.size { mapRead := true, copyTarget := true }).2⟩
  | copy {b : Buffer} {d : Device} {source target : Nat} (hs : b.device = some source)
      (ht : b.stage = some target) : Step ⟨b, d⟩ ⟨b, d.log (.bufferCopied source target b.size)⟩
  | setHandler {b : Buffer} {d : Device} (h : Handler BufferWrite) :
      Step ⟨b, d⟩ ⟨b.setHandler h, d⟩

/-- A change that bringing a buffer up to date for one point of a pass makes. Only a map buffer is
staged and copied, and only after the pass. -/
inductive Refresh : SyncPoint → Live Buffer → Live Buffer → Prop
  | use {p : SyncPoint} {l l' : Live Buffer} (h : Use l l') : Refresh p l l'
  | write {p : SyncPoint} {b : Buffer} {d : Device} {serial : Nat} {w : BufferWrite}
      (h : b.device = some serial) (hw : checkWrite b.id b.size w.offset w.data.size = .ok ()) :
      Refresh p ⟨b, d⟩ ⟨b, d.log (.bufferWritten serial w.offset w.data)⟩
  | ask {p : SyncPoint} {b : Buffer} {d : Device} {h : Handler BufferWrite}
      (hb : b.handler = some h) :
      Refresh p ⟨b, d⟩
        ⟨{ b with handler := some (h.called p) }, d.log (.handlerCalled p (h.callsAt p))⟩
  | stage {b : Buffer} {d : Device} (hk : b.kind = .map) (hs : b.stage = none) :
      Refresh .after ⟨b, d⟩ ⟨{ b with stage := some d.nextSerial },
        (d.createBuffer b.label b.size { mapRead := true, copyTarget := true }).2⟩
  | copy {b : Buffer} {d : Device} {source target : Nat} (hk : b.kind = .map)
      (hs : b.device = some source) (ht : b.stage = some target) :
      Refresh .after ⟨b, d⟩ ⟨b, d.log (.bufferCopied source target b.size)⟩

theorem Refresh.step {p : SyncPoint} (h : Refresh p l l') : Step l l' := by
  cases h with
  | use h => exact .use h
  | write h hw => exact .write h hw
  | ask hb => exact .ask p hb
  | stage hk hs => exact .stage hk hs
  | copy _ hs ht => exact .copy hs ht

/-! ## What actions do -/

theorem handle_of_some {serial : Nat} (h : l.object.device = some serial) :
    handle l = .ok serial l := by
  unfold handle
  rw [Action.object_bind, h]
  rfl

theorem handle_of_none (h : l.object.device = none) :
    handle l = .ok l.device.nextSerial (made l) := by
  unfold handle made
  simp only [Action.object_bind, h, Action.call_bind]
  cases l.object.contents <;> rfl

/-- The first use of a buffer makes the device buffer, which every use yields. -/
theorem handle_eq_ok {serial : Nat} {l' : Live Buffer} (h : handle l = .ok serial l') :
    l'.object.device = some serial ∧
      (l' = l ∨ l.object.device = none ∧ l' = made l) := by
  cases hd : l.object.device with
  | some s =>
    rw [handle_of_some hd] at h
    cases h
    exact ⟨hd, .inl rfl⟩
  | none =>
    rw [handle_of_none hd] at h
    cases h
    exact ⟨rfl, .inr ⟨rfl, rfl⟩⟩

/-- The first use never fails. -/
theorem exists_handle_eq_ok (l : Live Buffer) : ∃ serial l', handle l = .ok serial l' := by
  cases hd : l.object.device with
  | some serial => exact ⟨serial, l, handle_of_some hd⟩
  | none => exact ⟨_, _, handle_of_none hd⟩

theorem handle_uses : Runs Use handle := fun l => by
  cases hd : l.object.device with
  | some s => exact .of_after (after_ok (handle_of_some hd)) .refl
  | none => exact .of_after (after_ok (handle_of_none hd)) (.single (.make hd))

theorem handle_runs : Runs Step handle := fun l => (handle_uses l).mono fun _ _ => .use

theorem handle_refreshes (p : SyncPoint) : Runs (Refresh p) handle := fun l =>
  (handle_uses l).mono fun _ _ => .use

theorem staging_refreshes (hk : l.object.kind = .map) : RunsFrom (Refresh .after) staging l := by
  unfold staging
  refine .object (.check fun _ => ?_)
  cases hs : l.object.stage with
  | some s => exact .refl
  | none => exact .single (.stage hk hs)

theorem write_refreshes (p : SyncPoint) (w : BufferWrite) : Runs (Refresh p) (write w) := fun l => by
  unfold write
  refine .object (.checkExcept fun _ hw => (handle_refreshes p l).bind fun serial l' h => ?_)
  obtain ⟨hserial, hl⟩ := handle_eq_ok h
  refine .log (.write hserial ?_)
  obtain rfl | ⟨-, rfl⟩ := hl <;> exact hw

theorem askHandler_refreshes (p : SyncPoint) : Runs (Refresh p) (askHandler p) := fun l => by
  unfold askHandler
  refine .object ?_
  cases hh : l.object.handler with
  | none => exact .refl
  | some h => exact .single (.ask hh)

theorem staging_eq_ok {serial : Nat} (h : staging l = .ok serial l') :
    l'.object.stage = some serial ∧ l'.object.size = l.object.size ∧
      l'.object.kind = l.object.kind := by
  unfold staging at h
  rw [Action.object_bind] at h
  split at h
  · cases h
  · cases hs : l.object.stage with
    | some s =>
      rw [hs] at h
      cases h
      exact ⟨hs, rfl, rfl⟩
    | none =>
      rw [hs] at h
      cases h
      exact ⟨rfl, rfl, rfl⟩

theorem acquire_refreshes (p : SyncPoint) : Runs (Refresh p) (acquire p) := fun l => by
  unfold acquire
  refine (handle_refreshes p l).bind fun _ l₁ _ => (askHandler_refreshes p l₁).bind
    fun writes l₂ _ => (Runs.forM (write_refreshes p) writes l₂).bind fun _ l₃ _ => .object ?_
  split
  · next hcopy =>
    obtain ⟨hk, rfl⟩ := hcopy
    refine (staging_refreshes hk).bind fun target l₄ h₄ =>
      (handle_refreshes .after l₄).bind fun source l₅ h₅ => ?_
    obtain ⟨hstage, hsize, hkind⟩ := staging_eq_ok h₄
    obtain ⟨hsource, hl⟩ := handle_eq_ok h₅
    have hsame : l₅.object.stage = l₄.object.stage ∧ l₅.object.size = l₄.object.size ∧
        l₅.object.kind = l₄.object.kind := by
      obtain rfl | ⟨-, rfl⟩ := hl <;> exact ⟨rfl, rfl, rfl⟩
    rw [← hsize, ← hsame.2.1]
    exact .log (.copy (by rw [hsame.2.2, hkind, hk]) hsource (hsame.1.trans hstage))
  · exact .refl

theorem acquire_runs (p : SyncPoint) : Runs Step (acquire p) := fun l =>
  (acquire_refreshes p l).mono fun _ _ => Refresh.step

theorem setHandler_runs (handler : Handler BufferWrite) :
    Runs Step (Action.change (setHandler handler)) := fun _ => .single (.setHandler handler)

/-! ## What every step keeps -/

/-- The first use serves the device. -/
theorem serves_made : l.device.Serves (made l).device := by
  have hc := Device.Serves.createBuffer (d := l.device) l.object.label l.object.size
    l.object.kind.usage
  unfold made
  cases l.object.contents with
  | some bytes => exact hc.trans (.log rfl)
  | none => exact hc

theorem Use.serves (h : Use l l') : l.device.Serves l'.device := by
  cases h
  exact serves_made

/-- A step makes no shader module and no pipeline, and leaves the surface. -/
theorem Step.serves (h : Step l l') : l.device.Serves l'.device := by
  cases h with
  | use h => exact h.serves
  | write | ask | copy => exact .log rfl
  | stage => exact .createBuffer ..
  | setHandler => exact .refl

theorem Step.id (h : Step l l') : l'.object.id = l.object.id := by
  cases h with
  | use h =>
    cases h
    rfl
  | write | ask | stage | copy | setHandler => rfl

/-- The device buffer was asked for with label, size and usage of the buffer. -/
structure Sound (b : Buffer) (d : Device) : Prop where
  created : ∀ serial, b.device = some serial →
    .bufferCreated serial b.label b.size b.kind.usage ∈ d.trace

theorem Sound.later (h : b.Sound d) (hd : d.Later d') : b.Sound d' :=
  ⟨fun serial hs => hd.mem (h.created serial hs)⟩

theorem created_made : .bufferCreated l.device.nextSerial l.object.label l.object.size
    l.object.kind.usage ∈ (made l).device.trace := by
  unfold made
  cases l.object.contents <;> simp [Device.createBuffer, Device.create, Device.log]

/-- The initial contents as writes: at most one, at the start. -/
def initialWrites (b : Buffer) : List BufferWrite :=
  b.contents.toList.map fun data => { offset := 0, data := data }

/-- The event of a write into a device buffer. -/
def written (serial : Nat) (w : BufferWrite) : Event := .bufferWritten serial w.offset w.data

/-- What the first use appends to the trace: the device buffer and the initial contents. -/
theorem trace_made : (made l).device.trace = l.device.trace ++
    .bufferCreated l.device.nextSerial l.object.label l.object.size l.object.kind.usage ::
      l.object.initialWrites.map (written l.device.nextSerial) := by
  unfold made initialWrites written
  cases l.object.contents <;> simp [Device.createBuffer, Device.create, Device.log]

/-- A step keeps a buffer sound. -/
theorem Step.sound (h : Step l l') (hl : l.object.Sound l.device) :
    l'.object.Sound l'.device := by
  have hd := h.serves.later
  cases h with
  | use h =>
    cases h
    refine ⟨fun serial hs => ?_⟩
    cases hs
    exact created_made
  | write | ask | stage | copy | setHandler => exact ⟨(hl.later hd).created⟩

/-! ## What binding leaves -/

/-- A buffer without what binding it leaves on it. -/
def bare (b : Buffer) : Buffer := { b with contents := none, device := none }

theorem Use.bare (h : Use l l') : l'.object.bare = l.object.bare := by
  cases h
  rfl

/-- Binding leaves the device buffer that is there. -/
theorem Use.device (h : Use l l') {serial : Nat} (hs : l.object.device = some serial) :
    l'.object.device = some serial := by
  cases h with
  | make hn => exact nomatch hn.symm.trans hs

end PassForge.Buffer
