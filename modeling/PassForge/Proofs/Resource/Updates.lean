import Mathlib
import PassForge.Proofs.Context.Durable
import PassForge.Proofs.Resource.Refusal

/-!
# The writes that handlers ask for

Bringing a buffer or a texture up to date makes its device object if that is missing, calls its handler
once and makes the writes that the handler asks for, up to the first one that does not fit. After a pass
a map buffer is copied, unless a write did not fit.

* `BufferWrite.Fits` and `TextureWrite.Fits` say which writes can be made, and `Fault` what is wrong with
  the others: of several things the one that is looked at first.
* `MadeUpTo` relates the writes that are asked for, those that are made and the outcome.
  `forM_madeUpTo` is the statement for every loop of writes.
* `Buffer.acquire_eq` and `Texture.acquire_eq` say what is left of a resource and its device;
  `updates_spec` puts both together, with the trace in full.
* `handler_not_called`: without an image of the surface, the handler of a surface texture is not
  called.
-/

namespace PassForge

variable {ω τ : Type}

/-! ## Writes that fit -/

/-- A write that a buffer takes: offset and length are multiples of four, and it ends in the buffer. -/
structure BufferWrite.Fits (w : BufferWrite) (b : Buffer) : Prop where
  offset : w.offset % 4 = 0
  length : w.data.size % 4 = 0
  bounds : w.offset + w.data.size ≤ b.size

instance (w : BufferWrite) (b : Buffer) : Decidable (w.Fits b) :=
  decidable_of_iff (w.offset % 4 = 0 ∧ w.data.size % 4 = 0 ∧ w.offset + w.data.size ≤ b.size)
    ⟨fun ⟨ho, hl, hb⟩ => ⟨ho, hl, hb⟩, fun h => ⟨h.offset, h.length, h.bounds⟩⟩

/-- What is wrong with a write into a buffer: the offset is looked at before the length, and both
before the end. -/
inductive BufferWrite.Fault (w : BufferWrite) (b : Buffer) : ResourceError → Prop
  | offset (h : w.offset % 4 ≠ 0) : Fault w b (.misaligned "write offset" w.offset 4)
  | length (ho : w.offset % 4 = 0) (h : w.data.size % 4 ≠ 0) :
      Fault w b (.misaligned "write length" w.data.size 4)
  | bounds (ho : w.offset % 4 = 0) (hl : w.data.size % 4 = 0)
      (h : b.size < w.offset + w.data.size) :
      Fault w b (.writeOutOfBounds b.id w.offset w.data.size b.size)

/-- A write that a texture takes: it has the layer and the mip. -/
structure TextureWrite.Fits (w : TextureWrite) (t : Texture) : Prop where
  layer : w.layer < t.layers
  mip : w.mip < t.mips

instance (w : TextureWrite) (t : Texture) : Decidable (w.Fits t) :=
  decidable_of_iff (w.layer < t.layers ∧ w.mip < t.mips)
    ⟨fun ⟨hl, hm⟩ => ⟨hl, hm⟩, fun h => ⟨h.layer, h.mip⟩⟩

/-- What is wrong with a write into a texture: the layer is looked at before the mip. -/
inductive TextureWrite.Fault (w : TextureWrite) (t : Texture) : ResourceError → Prop
  | layer (h : t.layers ≤ w.layer) : Fault w t (.layerOutOfRange t.id w.layer t.layers)
  | mip (hl : w.layer < t.layers) (h : t.mips ≤ w.mip) : Fault w t (.mipLevelOutOfRange t.id w.mip)

section Fixed

variable {b b' : Buffer} {t t' : Texture} {e : ResourceError}

theorem BufferWrite.Fits.fixed {w : BufferWrite} (h : w.Fits b) (heq : b.fixed = b'.fixed) :
    w.Fits b' where
  offset := h.offset
  length := h.length
  bounds := h.bounds.trans_eq (congrArg Buffer.size heq :)

theorem BufferWrite.Fault.fixed {w : BufferWrite} (h : w.Fault b e) (heq : b.fixed = b'.fixed) :
    w.Fault b' e := by
  have hid : b.id = b'.id := (congrArg Buffer.id heq :)
  have hsize : b.size = b'.size := (congrArg Buffer.size heq :)
  cases h with
  | offset h => exact .offset h
  | length ho h => exact .length ho h
  | bounds ho hl h =>
    rw [hid, hsize]
    exact .bounds ho hl (hsize ▸ h)

theorem TextureWrite.Fits.fixed {w : TextureWrite} (h : w.Fits t) (heq : t.fixed = t'.fixed) :
    w.Fits t' where
  layer := Nat.lt_of_lt_of_eq h.layer (congrArg Texture.layers heq :)
  mip := Nat.lt_of_lt_of_eq h.mip (congrArg Texture.mips heq :)

theorem TextureWrite.Fault.fixed {w : TextureWrite} (h : w.Fault t e) (heq : t.fixed = t'.fixed) :
    w.Fault t' e := by
  have hid : t.id = t'.id := (congrArg Texture.id heq :)
  have hlayers : t.layers = t'.layers := (congrArg Texture.layers heq :)
  have hmips : t.mips = t'.mips := (congrArg Texture.mips heq :)
  cases h with
  | layer h =>
    rw [hid, hlayers]
    exact .layer (hlayers ▸ h)
  | mip hl h =>
    rw [hid]
    exact .mip (hlayers ▸ hl) (hmips ▸ h)

end Fixed

/-! ## Loops of writes -/

/-- What making writes one after the other comes to: those in front of the first one that does not fit
are made, and its fault is the error. -/
inductive MadeUpTo (Fits : ω → Prop) (Fault : ω → ResourceError → Prop) :
    List ω → List ω → Except ResourceError Unit → Prop
  | all {ws : List ω} (h : ∀ w ∈ ws, Fits w) : MadeUpTo Fits Fault ws ws (.ok ())
  | stopped {made rest : List ω} {w : ω} {e : ResourceError} (h : ∀ w ∈ made, Fits w) (hw : ¬Fits w)
      (he : Fault w e) : MadeUpTo Fits Fault (made ++ w :: rest) made (.error e)

namespace MadeUpTo

variable {Fits Fits' : ω → Prop} {Fault Fault' : ω → ResourceError → Prop} {ws made : List ω} {w : ω}
  {r : Except ResourceError Unit}

theorem congr (h : MadeUpTo Fits Fault ws made r) (hfits : ∀ w, Fits w ↔ Fits' w)
    (hfault : ∀ w e, Fault w e → Fault' w e) : MadeUpTo Fits' Fault' ws made r := by
  cases h with
  | all h => exact .all fun w hw => (hfits w).1 (h w hw)
  | stopped h hw he =>
    exact .stopped (fun w hw => (hfits w).1 (h w hw)) (fun hfit => hw ((hfits _).2 hfit)) (hfault _ _ he)

theorem cons (hw : Fits w) (h : MadeUpTo Fits Fault ws made r) :
    MadeUpTo Fits Fault (w :: ws) (w :: made) r := by
  cases h with
  | all h => exact .all (List.forall_mem_cons.2 ⟨hw, h⟩)
  | stopped h hn he => exact .stopped (List.forall_mem_cons.2 ⟨hw, h⟩) hn he

theorem fits (h : MadeUpTo Fits Fault ws made r) : ∀ w ∈ made, Fits w := by
  cases h with
  | all h => exact h
  | stopped h => exact h

/-- The writes that are made are the longest prefix of writes that fit. -/
theorem eq_takeWhile [DecidablePred Fits] (h : MadeUpTo Fits Fault ws made r) :
    made = ws.takeWhile fun w => Fits w := by
  cases h with
  | all h =>
    symm
    simpa [List.takeWhile_eq_self_iff] using h
  | stopped h hn he =>
    rw [List.takeWhile_append_of_pos (by simpa using h), List.takeWhile_cons_of_neg (by simpa using hn),
      List.append_nil]

/-- All writes are made iff all of them fit. -/
theorem isOk_iff (h : MadeUpTo Fits Fault ws made r) : r = .ok () ↔ ∀ w ∈ ws, Fits w := by
  cases h with
  | all h => simpa using h
  | stopped _ hn =>
    refine ⟨fun hr => (nomatch hr), fun hall => absurd (hall _ ?_) hn⟩
    exact List.mem_append_right _ List.mem_cons_self

end MadeUpTo

namespace Device

/-- The device with more events in its trace. -/
def logAll (d : Device) (es : List Event) : Device := { d with trace := d.trace ++ es }

theorem logAll_nil (d : Device) : d.logAll [] = d := by
  rw [logAll, List.append_nil]

theorem logAll_cons (d : Device) (e : Event) (es : List Event) :
    d.logAll (e :: es) = (d.log e).logAll es := by
  simp [logAll, log]

end Device

/-- A loop of writes makes them up to the first one that does not fit, if a round logs a write that fits,
and fails at another one and leaves everything as it is. -/
theorem forM_madeUpTo {Fits : ω → Prop} {Fault : ω → ResourceError → Prop} {t : τ}
    {make : ω → Action τ Unit} {event : ω → Event}
    (fits : ∀ w d, Fits w → make w ⟨t, d⟩ = .ok () ⟨t, d.log (event w)⟩)
    (fails : ∀ w d, ¬Fits w → ∃ e, Fault w e ∧ make w ⟨t, d⟩ = .error e ⟨t, d⟩)
    (ws : List ω) (d : Device) :
    ∃ made, MadeUpTo Fits Fault ws made (outcome (ws.forM make) ⟨t, d⟩) ∧
      after (ws.forM make) ⟨t, d⟩ = ⟨t, d.logAll (made.map event)⟩ := by
  -- The first write either fits and is made in front of the others, or it ends the loop.
  induction ws generalizing d with
  | nil => exact ⟨[], .all (List.forall_mem_nil _), by rw [List.map_nil, Device.logAll_nil]; rfl⟩
  | cons w ws ih =>
    by_cases hw : Fits w
    · have hfirst : (w :: ws).forM make ⟨t, d⟩ = ws.forM make ⟨t, d.log (event w)⟩ :=
        bind_of_ok (fits w d hw)
      obtain ⟨made, hmade, hafter⟩ := ih (d.log (event w))
      refine ⟨w :: made, ?_, ?_⟩
      · rw [outcome, hfirst]
        exact hmade.cons hw
      · rw [after, hfirst, List.map_cons, Device.logAll_cons]
        exact hafter
    · obtain ⟨e, he, hfail⟩ := fails w d hw
      have hfirst : (w :: ws).forM make ⟨t, d⟩ = .error e ⟨t, d⟩ := bind_of_error hfail
      refine ⟨[], ?_, ?_⟩
      · rw [outcome_error hfirst]
        exact .stopped (List.forall_mem_nil _) hw he
      · rw [after_error hfirst, List.map_nil, Device.logAll_nil]

/-! ## Handlers -/

namespace Handler

/-- The writes that a call at a point of a pass asks for; none without a handler. -/
def wanted (h : Option (Handler ω)) (p : SyncPoint) : List ω := (h.map (ask · p)).getD []

/-- The event of a call at a point of a pass, if there is a handler. -/
def callEvents (h : Option (Handler ω)) (p : SyncPoint) : List Event :=
  h.toList.map fun h => .handlerCalled p (h.callsAt p)

end Handler

/-! ## Buffers -/

namespace Buffer

variable {l : Live Buffer} {b : Buffer} {p : SyncPoint} {serial : Nat} {w : BufferWrite}

theorem checkWrite_of_fits (h : w.Fits b) : checkWrite b.id b.size w.offset w.data.size = .ok () := by
  have hbounds := h.bounds
  unfold checkWrite writeAlignment
  rw [if_neg (by simp [h.offset]), if_neg (by simp [h.length]), if_neg (by omega)]

theorem checkWrite_of_not_fits (h : ¬w.Fits b) :
    ∃ e, w.Fault b e ∧ checkWrite b.id b.size w.offset w.data.size = .error e := by
  unfold checkWrite writeAlignment
  by_cases ho : w.offset % 4 = 0
  · rw [if_neg (by simp [ho])]
    by_cases hl : w.data.size % 4 = 0
    · rw [if_neg (by simp [hl])]
      have hb : b.size < w.offset + w.data.size := by
        by_contra hle
        exact h ⟨ho, hl, by omega⟩
      exact ⟨_, .bounds ho hl hb, if_pos hb⟩
    · exact ⟨_, .length ho hl, if_pos hl⟩
  · exact ⟨_, .offset ho, if_pos ho⟩

/-- What the first use of a buffer appends to the trace; nothing if the device buffer is there. -/
def firstUse (l : Live Buffer) : List Event :=
  match l.object.device with
  | some _ => []
  | none =>
    .bufferCreated l.device.nextSerial l.object.label l.object.size l.object.kind.usage ::
      l.object.initialWrites.map (written l.device.nextSerial)

/-- A buffer that has been used, and its device. -/
def ready (l : Live Buffer) : Live Buffer :=
  match l.object.device with
  | some _ => l
  | none => made l

theorem ready_of_some (h : l.object.device = some serial) : ready l = l ∧ firstUse l = [] := by
  unfold ready firstUse
  rw [h]
  exact ⟨rfl, rfl⟩

theorem ready_of_none (h : l.object.device = none) : ready l = made l ∧ firstUse l =
    .bufferCreated l.device.nextSerial l.object.label l.object.size l.object.kind.usage ::
      l.object.initialWrites.map (written l.device.nextSerial) := by
  unfold ready firstUse
  rw [h]
  exact ⟨rfl, rfl⟩

theorem trace_ready (l : Live Buffer) : (ready l).device.trace = l.device.trace ++ firstUse l := by
  cases h : l.object.device with
  | some s =>
    obtain ⟨hready, hfirst⟩ := ready_of_some h
    rw [hready, hfirst, List.append_nil]
  | none =>
    obtain ⟨hready, hfirst⟩ := ready_of_none h
    rw [hready, hfirst]
    exact trace_made

/-- The first use of a buffer changes nothing but the device buffer and the initial contents. -/
theorem ready_object (l : Live Buffer) :
    (ready l).object.fixed = l.object.fixed ∧ (ready l).object.handler = l.object.handler := by
  unfold ready
  cases l.object.device <;> exact ⟨rfl, rfl⟩

theorem handle_eq (l : Live Buffer) :
    ∃ serial, handle l = .ok serial (ready l) ∧ (ready l).object.device = some serial := by
  unfold ready
  cases h : l.object.device with
  | some s => exact ⟨s, handle_of_some h, h⟩
  | none => exact ⟨_, handle_of_none h, rfl⟩

/-- A buffer and its device after the handler has been called. -/
def asked (p : SyncPoint) (l : Live Buffer) : Live Buffer where
  object := { l.object with handler := l.object.handler.map (Handler.called · p) }
  device := l.device.logAll (Handler.callEvents l.object.handler p)

theorem askHandler_eq (p : SyncPoint) (l : Live Buffer) :
    askHandler p l = .ok (Handler.wanted l.object.handler p) (asked p l) := by
  unfold askHandler asked
  rw [Action.object_bind]
  cases hh : l.object.handler with
  | none =>
    rw [Handler.callEvents, Option.toList_none, List.map_nil, Device.logAll_nil]
    show EStateM.Result.ok [] { l with object := { l.object with handler := l.object.handler } } = _
    rw [hh]
    rfl
  | some h => rfl

theorem write_of_not_fits (hw : ¬w.Fits l.object) :
    ∃ e, w.Fault l.object e ∧ write w l = .error e l := by
  obtain ⟨e, he, hcheck⟩ := checkWrite_of_not_fits hw
  refine ⟨e, he, ?_⟩
  unfold write
  rw [Action.object_bind, hcheck]
  rfl

/-- A buffer and its device after writes into the device buffer. -/
def wrote (serial : Nat) (ws : List BufferWrite) (l : Live Buffer) : Live Buffer :=
  { l with device := l.device.logAll (ws.map (written serial)) }

/-- A write that fits is made, and makes the device buffer if that is missing. -/
theorem write_of_fits (hw : w.Fits l.object) :
    ∃ serial, (ready l).object.device = some serial ∧
      write w l = .ok () (wrote serial [w] (ready l)) := by
  obtain ⟨serial, hhandle, hs⟩ := handle_eq l
  refine ⟨serial, hs, ?_⟩
  unfold write
  rw [Action.object_bind, checkWrite_of_fits hw]
  exact bind_of_ok hhandle

theorem write_of_some (hs : l.object.device = some serial) (hw : w.Fits l.object) :
    write w l = .ok () (wrote serial [w] l) := by
  obtain ⟨serial', hs', hwrite⟩ := write_of_fits hw
  rw [(ready_of_some hs).1] at hs' hwrite
  cases hs.symm.trans hs'
  exact hwrite

theorem forM_write (hs : l.object.device = some serial) (ws : List BufferWrite) :
    ∃ made, MadeUpTo (BufferWrite.Fits · l.object) (BufferWrite.Fault · l.object) ws made
        (outcome (ws.forM write) l) ∧
      after (ws.forM write) l = wrote serial made l :=
  forM_madeUpTo (t := l.object) (fun _ d hw => write_of_some (l := ⟨l.object, d⟩) hs hw)
    (fun _ d hw => write_of_not_fits (l := ⟨l.object, d⟩) hw) ws l.device

theorem trace_wrote (p : SyncPoint) (l : Live Buffer) (serial : Nat) (ws : List BufferWrite) :
    (wrote serial ws (asked p (ready l))).device.trace = l.device.trace ++ firstUse l ++
      Handler.callEvents l.object.handler p ++ ws.map (written serial) := by
  rw [← trace_ready, ← (ready_object l).2]
  rfl

/-- The usage of a staging buffer. -/
def stagingUsage : BufferUsage := { mapRead := true, copyTarget := true }

/-- The serial of the staging buffer: of the one that is there, or of the one that is made next. -/
def target (l : Live Buffer) : Nat := l.object.stage.getD l.device.nextSerial

/-- What the first use of the staging buffer appends to the trace; nothing if it is there. -/
def firstStaging (l : Live Buffer) : List Event :=
  match l.object.stage with
  | some _ => []
  | none => [.bufferCreated l.device.nextSerial l.object.label l.object.size stagingUsage]

/-- What copying a buffer appends to the trace. -/
def copyEvents (serial : Nat) (l : Live Buffer) : List Event :=
  firstStaging l ++ [.bufferCopied serial (target l) l.object.size]

/-- A buffer with a staging buffer, and its device. -/
def staged (l : Live Buffer) : Live Buffer :=
  match l.object.stage with
  | some _ => l
  | none => ⟨{ l.object with stage := some l.device.nextSerial },
      (l.device.createBuffer l.object.label l.object.size stagingUsage).2⟩

theorem staged_of_some {s : Nat} (h : l.object.stage = some s) :
    staged l = l ∧ firstStaging l = [] := by
  unfold staged firstStaging
  rw [h]
  exact ⟨rfl, rfl⟩

theorem staged_of_none (h : l.object.stage = none) :
    staged l = ⟨{ l.object with stage := some l.device.nextSerial },
      (l.device.createBuffer l.object.label l.object.size stagingUsage).2⟩ ∧
    firstStaging l =
      [.bufferCreated l.device.nextSerial l.object.label l.object.size stagingUsage] := by
  unfold staged firstStaging
  rw [h]
  exact ⟨rfl, rfl⟩

theorem trace_staged (l : Live Buffer) :
    (staged l).device.trace = l.device.trace ++ firstStaging l := by
  unfold staged firstStaging
  cases l.object.stage with
  | some s => rw [List.append_nil]
  | none => rfl

theorem staging_eq (hk : l.object.kind = .map) : staging l = .ok (target l) (staged l) := by
  unfold staging staged target
  rw [Action.object_bind, if_neg fun hne => hne hk]
  cases l.object.stage <;> rfl

theorem staging_of_ne (hk : l.object.kind ≠ .map) :
    staging l = .error (.notMappable l.object.id) l := by
  unfold staging
  rw [Action.object_bind, if_pos hk]
  rfl

/-- A buffer and its device after the buffer has been copied into its staging buffer. -/
def copied (serial : Nat) (l : Live Buffer) : Live Buffer :=
  { staged l with device := (staged l).device.log (.bufferCopied serial (target l) l.object.size) }

theorem copied_object (serial : Nat) (l : Live Buffer) :
    (copied serial l).object.handler = l.object.handler ∧
      (copied serial l).object.device = l.object.device := by
  unfold copied staged
  cases l.object.stage <;> exact ⟨rfl, rfl⟩

theorem trace_copied (serial : Nat) (l : Live Buffer) :
    (copied serial l).device.trace = l.device.trace ++ copyEvents serial l := by
  rw [copyEvents, ← List.append_assoc, ← trace_staged]
  rfl

/-- What ends bringing a buffer up to date. -/
def finish (p : SyncPoint) : Action Buffer Unit := do
  let b ← Action.object
  if b.kind = .map ∧ p = .after then
    let target ← staging
    let source ← handle
    Action.log (.bufferCopied source target b.size)

theorem acquire_def (p : SyncPoint) : acquire p =
    handle >>= fun _ => askHandler p >>= fun writes => writes.forM write >>= fun _ => finish p := rfl

/-- After a pass a map buffer is copied. -/
theorem finish_eq (hs : l.object.device = some serial) :
    finish p l = .ok () (if l.object.kind = .map ∧ p = .after then copied serial l else l) := by
  unfold finish
  rw [Action.object_bind]
  by_cases hcopy : l.object.kind = .map ∧ p = .after
  · have hsource : (staged l).object.device = some serial := by
      unfold staged
      cases l.object.stage <;> exact hs
    rw [if_pos hcopy, if_pos hcopy, bind_of_ok (staging_eq hcopy.1), bind_of_ok (handle_of_some hsource)]
    rfl
  · rw [if_neg hcopy, if_neg hcopy]
    rfl

/-- Whether bringing a buffer up to date ends with a copy of it. -/
def Copies (p : SyncPoint) (b : Buffer) : Prop :=
  b.kind = .map ∧ p = .after ∧ ∀ w ∈ Handler.wanted b.handler p, w.Fits b

instance (p : SyncPoint) (b : Buffer) : Decidable (b.Copies p) :=
  inferInstanceAs (Decidable (_ ∧ _ ∧ ∀ w ∈ Handler.wanted b.handler p, w.Fits b))

/-- **Bringing a buffer up to date**: its first use, one call of its handler, the writes up to the first
one that does not fit, and the copy. -/
theorem acquire_eq (p : SyncPoint) (l : Live Buffer) : ∃ made serial,
    (ready l).object.device = some serial ∧
    MadeUpTo (BufferWrite.Fits · l.object) (BufferWrite.Fault · l.object)
      (Handler.wanted l.object.handler p) made (outcome (acquire p) l) ∧
    after (acquire p) l =
      if l.object.Copies p then copied serial (wrote serial made (asked p (ready l)))
      else wrote serial made (asked p (ready l)) := by
  obtain ⟨hfixed, hhandler⟩ := ready_object l
  have hfixed' : (asked p (ready l)).object.fixed = l.object.fixed := hfixed
  have hkind : (asked p (ready l)).object.kind = l.object.kind := (congrArg Buffer.kind hfixed' :)
  obtain ⟨serial, hhandle, hs⟩ := handle_eq l
  have hs' : (asked p (ready l)).object.device = some serial := hs
  obtain ⟨made, hmade, hafter⟩ := forM_write hs' (Handler.wanted l.object.handler p)
  replace hmade : MadeUpTo (BufferWrite.Fits · l.object) (BufferWrite.Fault · l.object) _ made _ :=
    hmade.congr (fun _ => ⟨fun h => h.fixed hfixed', fun h => h.fixed hfixed'.symm⟩)
      fun _ _ h => h.fixed hfixed'
  have hacquire : acquire p l = ((Handler.wanted l.object.handler p).forM write >>= fun _ => finish p)
      (asked p (ready l)) := by
    rw [acquire_def, bind_of_ok hhandle, bind_of_ok (askHandler_eq p (ready l)), hhandler]
  refine ⟨made, serial, hs, ?_⟩
  cases hloop : (Handler.wanted l.object.handler p).forM write (asked p (ready l)) with
  | error e l' =>
    -- A write does not fit, and the copy is not reached.
    rw [after_error hloop] at hafter
    rw [outcome_error hloop] at hmade
    have hfail : acquire p l = .error e l' := hacquire.trans (bind_of_error hloop)
    rw [outcome_error hfail, after_error hfail, if_neg, hafter]
    · exact ⟨hmade, rfl⟩
    · exact fun hcopies => nomatch hmade.isOk_iff.2 hcopies.2.2
  | ok u l' =>
    -- All writes fit, so that the kind and the point decide about the copy.
    rw [after_ok hloop] at hafter
    rw [outcome_ok hloop] at hmade
    subst hafter
    have hall := hmade.isOk_iff.1 rfl
    have hcopies : (wrote serial made (asked p (ready l))).object.kind = .map ∧ p = .after ↔
        l.object.Copies p :=
      ⟨fun ⟨hk, hp⟩ => ⟨hkind.symm.trans hk, hp, hall⟩, fun ⟨hk, hp, _⟩ => ⟨hkind.trans hk, hp⟩⟩
    have hcopy := hacquire.trans ((bind_of_ok hloop).trans (finish_eq hs))
    refine ⟨(outcome_ok hcopy).symm ▸ hmade, (after_ok hcopy).trans ?_⟩
    simp only [hcopies]

end Buffer

/-! ## Textures -/

namespace Texture

variable {l : Live Texture} {t : Texture} {p : SyncPoint} {image : Nat} {w : TextureWrite}

/-- What the first use of a texture appends to the trace; nothing if the device texture is there, or is
the image of the frame. -/
def firstUse (l : Live Texture) : List Event :=
  if l.object.kind = .surface ∨ l.object.device.isSome then []
  else .textureCreated l.device.nextSerial l.object.request ::
    l.object.initialWrites.map (l.object.written l.device.nextSerial)

/-- A texture that has been used, and its device. -/
def ready (l : Live Texture) : Live Texture :=
  if l.object.kind = .surface ∨ l.object.device.isSome then l else made l

theorem trace_ready (l : Live Texture) : (ready l).device.trace = l.device.trace ++ firstUse l := by
  unfold ready firstUse
  split
  · rw [List.append_nil]
  · exact trace_made

/-- The first use of a texture changes nothing but the device texture and the initial contents. -/
theorem ready_object (l : Live Texture) :
    (ready l).object.fixed = l.object.fixed ∧ (ready l).object.handler = l.object.handler := by
  unfold ready
  split <;> exact ⟨rfl, rfl⟩

theorem handle_of_not_missing (h : ¬l.object.Missing l.device) :
    ∃ image, handle l = .ok image (ready l) ∧ (ready l).object.image? (ready l).device = some image := by
  unfold ready
  obtain ⟨image, hi, heq⟩ | ⟨hk, hs, -⟩ | ⟨hk, hd, heq⟩ := handle_cases l
  · rw [if_pos]
    · exact ⟨image, heq, hi⟩
    · by_cases hk : l.object.kind = .surface
      · exact .inl hk
      · rw [image?_of_ne hk] at hi
        exact .inr (by rw [hi]; rfl)
  · exact absurd ⟨hk, hs⟩ h
  · rw [if_neg (by simp [hk, hd])]
    exact ⟨_, heq, image?_made hk⟩

/-- A texture and its device after the handler has been called. -/
def asked (p : SyncPoint) (l : Live Texture) : Live Texture where
  object := { l.object with handler := l.object.handler.map (Handler.called · p) }
  device := l.device.logAll (Handler.callEvents l.object.handler p)

theorem askHandler_eq (p : SyncPoint) (l : Live Texture) :
    askHandler p l = .ok (Handler.wanted l.object.handler p) (asked p l) := by
  unfold askHandler asked
  rw [Action.object_bind]
  cases hh : l.object.handler with
  | none =>
    rw [Handler.callEvents, Option.toList_none, List.map_nil, Device.logAll_nil]
    show EStateM.Result.ok [] { l with object := { l.object with handler := l.object.handler } } = _
    rw [hh]
    rfl
  | some h => rfl

theorem write_of_fits (hw : w.Fits l.object) :
    write image w l = .ok () { l with device := l.device.log (l.object.written image w) } := by
  unfold write
  rw [Action.object_bind, if_neg (Nat.not_le_of_lt hw.layer), if_neg (Nat.not_le_of_lt hw.mip),
    textureWritten_levelWrite]
  rfl

theorem write_of_not_fits (hw : ¬w.Fits l.object) :
    ∃ e, w.Fault l.object e ∧ write image w l = .error e l := by
  unfold write
  rw [Action.object_bind]
  by_cases hlayer : l.object.layers ≤ w.layer
  · rw [if_pos hlayer]
    exact ⟨_, .layer hlayer, rfl⟩
  · have hmip : l.object.mips ≤ w.mip := by
      by_contra hmip
      exact hw ⟨Nat.lt_of_not_le hlayer, Nat.lt_of_not_le hmip⟩
    rw [if_neg hlayer, if_pos hmip]
    exact ⟨_, .mip (Nat.lt_of_not_le hlayer) hmip, rfl⟩

/-- A texture and its device after writes into the device texture. -/
def wrote (image : Nat) (ws : List TextureWrite) (l : Live Texture) : Live Texture :=
  { l with device := l.device.logAll (ws.map (l.object.written image)) }

theorem trace_wrote (p : SyncPoint) (l : Live Texture) (image : Nat) (ws : List TextureWrite) :
    (wrote image ws (asked p (ready l))).device.trace = l.device.trace ++ firstUse l ++
      Handler.callEvents l.object.handler p ++ ws.map (l.object.written image) := by
  obtain ⟨hfixed, hhandler⟩ := ready_object l
  have hwritten : (ready l).object.written image = l.object.written image :=
    (congrArg (fun t => Texture.written t image) hfixed :)
  rw [← trace_ready, ← hhandler, ← hwritten]
  rfl

theorem forM_write (image : Nat) (ws : List TextureWrite) :
    ∃ made, MadeUpTo (TextureWrite.Fits · l.object) (TextureWrite.Fault · l.object) ws made
        (outcome (ws.forM (write image)) l) ∧
      after (ws.forM (write image)) l = wrote image made l :=
  forM_madeUpTo (t := l.object) (fun _ d hw => write_of_fits (l := ⟨l.object, d⟩) hw)
    (fun _ d hw => write_of_not_fits (l := ⟨l.object, d⟩) hw) ws l.device

/-- **Bringing a texture up to date**: without an image of the surface nothing happens. Otherwise it is
its first use, one call of its handler, and the writes up to the first one that does not fit. -/
theorem acquire_eq (p : SyncPoint) (l : Live Texture) :
    (l.object.Missing l.device ∧ acquire p l = .error .surfaceUnavailable l) ∨
    ¬l.object.Missing l.device ∧ ∃ made image,
      (ready l).object.image? (ready l).device = some image ∧
      MadeUpTo (TextureWrite.Fits · l.object) (TextureWrite.Fault · l.object)
        (Handler.wanted l.object.handler p) made (outcome (acquire p) l) ∧
      after (acquire p) l = wrote image made (asked p (ready l)) := by
  by_cases hmissing : l.object.Missing l.device
  · exact .inl ⟨hmissing, bind_of_error (handle_of_noSurface hmissing.1 hmissing.2)⟩
  refine .inr ⟨hmissing, ?_⟩
  obtain ⟨hfixed, hhandler⟩ := ready_object l
  have hfixed' : (asked p (ready l)).object.fixed = l.object.fixed := hfixed
  obtain ⟨image, hhandle, hi⟩ := handle_of_not_missing hmissing
  obtain ⟨made, hmade, hafter⟩ := forM_write (l := asked p (ready l)) image
    (Handler.wanted l.object.handler p)
  have hacquire : acquire p l = (Handler.wanted l.object.handler p).forM (write image)
      (asked p (ready l)) := by
    unfold acquire
    rw [bind_of_ok hhandle, bind_of_ok (askHandler_eq p (ready l)), hhandler]
  refine ⟨made, image, hi, ?_, ?_⟩
  · rw [outcome, hacquire]
    exact hmade.congr (fun _ => ⟨fun h => h.fixed hfixed', fun h => h.fixed hfixed'.symm⟩)
      fun _ _ h => h.fixed hfixed'
  · rw [after, hacquire]
    exact hafter

end Texture

/-! ## Both -/

/-- **The writes of a handler are made up to the first one that does not fit.**

Bringing a buffer or a texture up to date calls its handler exactly once. Of the writes that it asks for,
the device gets the longest prefix of those that fit, in order; the fault of the next one is the error,
and there is none if all fit. A map buffer is copied iff this is after a pass and all fit. The trace is
that of before, the first use, the call, the writes and the copy. Only without an image of the surface,
a surface texture fails at once: its handler is not called and nothing is changed. -/
theorem updates_spec (p : SyncPoint) :
    (∀ l : Live Buffer, let l' := after (Buffer.acquire p) l
      ∃ made serial,
        MadeUpTo (BufferWrite.Fits · l.object) (BufferWrite.Fault · l.object)
          (Handler.wanted l.object.handler p) made (outcome (Buffer.acquire p) l) ∧
        l'.object.handler = l.object.handler.map (Handler.called · p) ∧
        l'.object.device = some serial ∧
        l'.device.trace = l.device.trace ++ Buffer.firstUse l ++
          Handler.callEvents l.object.handler p ++ made.map (Buffer.written serial) ++
          if l.object.Copies p then Buffer.copyEvents serial (Buffer.ready l) else []) ∧
    ∀ l : Live Texture, let l' := after (Texture.acquire p) l
      (l.object.Missing l.device ∧ Texture.acquire p l = .error .surfaceUnavailable l) ∨
      ¬l.object.Missing l.device ∧ ∃ made image,
        MadeUpTo (TextureWrite.Fits · l.object) (TextureWrite.Fault · l.object)
          (Handler.wanted l.object.handler p) made (outcome (Texture.acquire p) l) ∧
        l'.object.handler = l.object.handler.map (Handler.called · p) ∧
        l'.object.image? l'.device = some image ∧
        l'.device.trace = l.device.trace ++ Texture.firstUse l ++
          Handler.callEvents l.object.handler p ++ made.map (l.object.written image) := by
  refine ⟨fun l => ?_, fun l => ?_⟩
  · obtain ⟨made, serial, hs, hmade, hafter⟩ := Buffer.acquire_eq p l
    have hcall : (Buffer.asked p (Buffer.ready l)).object.handler =
        l.object.handler.map (Handler.called · p) :=
      congrArg (Option.map (Handler.called · p)) (Buffer.ready_object l).2
    refine ⟨made, serial, hmade, ?_⟩
    show _ ∧ _ ∧ _
    rw [hafter]
    split
    · obtain ⟨hhandler, hdevice⟩ := Buffer.copied_object serial
        (Buffer.wrote serial made (Buffer.asked p (Buffer.ready l)))
      refine ⟨hhandler.trans hcall, hdevice.trans hs, ?_⟩
      rw [Buffer.trace_copied, Buffer.trace_wrote]
      rfl
    · exact ⟨hcall, hs, by rw [Buffer.trace_wrote, List.append_nil]⟩
  · obtain h | ⟨hmissing, made, image, hi, hmade, hafter⟩ := Texture.acquire_eq p l
    · exact .inl h
    · refine .inr ⟨hmissing, made, image, hmade, ?_⟩
      show _ ∧ _ ∧ _
      rw [hafter]
      exact ⟨congrArg (Option.map (Handler.called · p)) (Texture.ready_object l).2, hi,
        Texture.trace_wrote p l image made⟩

namespace Lost

/-- A device that has lost its surface. -/
def device : Device := (Device.start {}).loseSurface

/-- A texture on the surface, with a handler that asks for no write. -/
def texture : Texture :=
  { Texture.ofSurface (.start {}) ⟨1⟩ with handler := some (.scripted [some []] []) }

end Lost

/-- **Without an image of the surface the handler of a surface texture is not called**: bringing it up to
date fails although every write that the handler asks for fits. -/
theorem handler_not_called :
    (∀ w ∈ Handler.wanted Lost.texture.handler .before, w.Fits Lost.texture) ∧
    outcome (Texture.acquire .before) ⟨Lost.texture, Lost.device⟩ = .error .surfaceUnavailable ∧
    (after (Texture.acquire .before) ⟨Lost.texture, Lost.device⟩).object.handler.map Handler.calls =
      some [] ∧
    (after (Texture.acquire .before) ⟨Lost.texture, Lost.device⟩).device.trace = Lost.device.trace := by
  refine ⟨?_, by cbv, by cbv, by cbv⟩
  have hnone : Handler.wanted Lost.texture.handler .before = [] := by cbv
  rw [hnone]
  exact List.forall_mem_nil _

end PassForge
