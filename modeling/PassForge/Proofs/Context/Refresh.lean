import PassForge.Proofs.Context.Operations

/-!
# What recording a pass does to a context

Recording a pass brings resources up to date and, in between, makes ready what the pass uses. Both are
changes of a context, and each says what it may append to the trace of the device.

* `Context.Refresh` are the changes that bringing resources up to date for one point of a pass makes.
  They call handlers for that point only, and encode nothing but copies of map buffers into their
  staging buffers, and those only after the pass (`synced_of_refreshes`).
* `Context.Arrange` are the changes that making a pass ready makes. They call no handler and encode
  nothing (`quiet_of_arranges`).
-/

namespace PassForge

open Relation (ReflTransGen)

variable {p : SyncPoint} {e : Event}

/-! ## Events -/

namespace Event

/-- The point of a pass for which an event calls a handler, if it calls one. -/
def calledAt? : Event → Option SyncPoint
  | handlerCalled p _ => some p
  | _ => none

/-- An event that neither calls a handler nor encodes a command. -/
def Quiet (e : Event) : Prop := e.isEncoded = false ∧ e.calledAt? = none

/-- An event of a synchronisation at a point of a pass: a handler is called for that point only, and
a command is encoded only after the pass and only if it is one of some copies. -/
def SyncsAt (p : SyncPoint) (copies : Event → Prop) (e : Event) : Prop :=
  (∀ q, e.calledAt? = some q → q = p) ∧ (e.isEncoded → p = .after ∧ copies e)

theorem Quiet.syncsAt {copies : Event → Prop} (h : e.Quiet) : e.SyncsAt p copies :=
  ⟨fun _ hq => (nomatch h.2.symm.trans hq), fun he => (nomatch h.1.symm.trans he)⟩

/-- Before the pass a synchronisation encodes nothing. -/
theorem SyncsAt.not_encoded {copies : Event → Prop} (h : e.SyncsAt .before copies) :
    e.isEncoded = false := by
  cases hencoded : e.isEncoded with
  | false => rfl
  | true => exact nomatch (h.2 hencoded).1

end Event

/-! ## Resources -/

namespace Buffer

variable {l l' : Live Buffer}

/-- A copy of all of a map buffer into its staging buffer. -/
def StagingCopy (b : Buffer) (e : Event) : Prop :=
  ∃ source target, b.kind = .map ∧ b.device = some source ∧ b.stage = some target ∧
    e = .bufferCopied source target b.size

theorem Use.quiet (h : Use l l') : l.device.Appends Event.Quiet l'.device := by
  cases h
  exact ⟨_, trace_made, by simp [Event.Quiet, Event.isEncoded, Event.calledAt?, written]⟩

/-- What is a copy of a buffer stays one. -/
theorem Refresh.stagingCopy (h : Refresh p l l') (he : l.object.StagingCopy e) :
    l'.object.StagingCopy e := by
  obtain ⟨source, target, hk, hs, ht, rfl⟩ := he
  cases h with
  | use h =>
    cases h with
    | make hn => exact nomatch hn.symm.trans hs
  | stage _ hn => exact nomatch hn.symm.trans ht
  | write | ask | copy => exact ⟨source, target, hk, hs, ht, rfl⟩

theorem Refresh.syncs (h : Refresh p l l') :
    l.device.Appends (Event.SyncsAt p l'.object.StagingCopy) l'.device := by
  cases h with
  | use h => exact h.quiet.imp fun _ he => he.syncsAt
  | write | stage => exact .single rfl (Event.Quiet.syncsAt ⟨rfl, rfl⟩)
  | ask => exact .single rfl ⟨fun q hq => (Option.some.inj hq).symm, fun he => (nomatch he)⟩
  | copy hk hs ht => exact .single rfl ⟨fun q hq => (nomatch hq), fun _ => ⟨rfl, _, _, hk, hs, ht, rfl⟩⟩

end Buffer

namespace Texture

variable {l l' : Live Texture}

theorem quiet_made : l.device.Appends Event.Quiet (made l).device :=
  ⟨_, trace_made, by simp [Event.Quiet, Event.isEncoded, Event.calledAt?, written]⟩

theorem Attach.quiet (h : Attach l l') : l.device.Appends Event.Quiet l'.device := by
  cases h with
  | make => exact quiet_made
  | keep => exact .single rfl ⟨rfl, rfl⟩
  | select => exact .refl

theorem Refresh.syncs {copies : Event → Prop} (h : Refresh p l l') :
    l.device.Appends (Event.SyncsAt p copies) l'.device := by
  cases h with
  | make => exact quiet_made.imp fun _ he => he.syncsAt
  | write => exact .single rfl (Event.Quiet.syncsAt ⟨rfl, rfl⟩)
  | ask => exact .single rfl ⟨fun q hq => (Option.some.inj hq).symm, fun he => (nomatch he)⟩

end Texture

/-! ## Contexts -/

namespace Context

variable {c c' c'' : Context}

/-- A change that bringing resources up to date for one point of a pass makes. -/
inductive Refresh (p : SyncPoint) : Context → Context → Prop
  | buffer {c : Context} {id : ResourceId} {b : Buffer} {l : Live Buffer}
      (h : c.buffers.get? id = some b) (hl : Buffer.Refresh p ⟨b, c.device⟩ l) :
      Refresh p c (Shelf.buffers.put id l c)
  | texture {c : Context} {id : ResourceId} {t : Texture} {l : Live Texture}
      (h : c.textures.get? id = some t) (hl : Texture.Refresh p ⟨t, c.device⟩ l) :
      Refresh p c (Shelf.textures.put id l c)

theorem Refresh.step (h : Refresh p c c') : Step c c' := by
  cases h with
  | buffer h hl => exact .buffer h hl.step
  | texture h hl => exact .texture h hl.step

/-- A change that making a pass ready to be encoded makes. -/
inductive Arrange : Context → Context → Prop
  | buffer {c : Context} {id : ResourceId} {b : Buffer} {l : Live Buffer}
      (h : c.buffers.get? id = some b) (hl : Buffer.Use ⟨b, c.device⟩ l) :
      Arrange c (Shelf.buffers.put id l c)
  | texture {c : Context} {id : ResourceId} {t : Texture} {l : Live Texture}
      (h : c.textures.get? id = some t) (hl : Texture.Attach ⟨t, c.device⟩ l) :
      Arrange c (Shelf.textures.put id l c)

theorem Arrange.step (h : Arrange c c') : Step c c' := by
  cases h with
  | buffer h hl => exact .buffer h (.use hl)
  | texture h hl => exact .texture h hl.step

theorem Arrange.quiet (h : Arrange c c') : c.device.Appends Event.Quiet c'.device := by
  cases h with
  | buffer _ hl => exact hl.quiet
  | texture _ hl => exact hl.quiet

/-- Making a pass ready calls no handler and encodes nothing. -/
theorem quiet_of_arranges (h : ReflTransGen Arrange c c') :
    c.device.Appends Event.Quiet c'.device := by
  induction h with
  | refl => exact .refl
  | tail _ h ih => exact ih.trans h.quiet

/-- A copy of a map buffer of a context into its staging buffer. -/
def StagingCopy (c : Context) (e : Event) : Prop :=
  ∃ id b, c.buffers.get? id = some b ∧ b.StagingCopy e

/-- What a synchronisation at a point of a pass leaves: it has called handlers for that point and
encoded staging copies, and the staging copies of before still are such. -/
structure Synced (p : SyncPoint) (c c' : Context) : Prop where
  events : c.device.Appends (Event.SyncsAt p c'.StagingCopy) c'.device
  copies : ∀ e, c.StagingCopy e → c'.StagingCopy e

theorem Synced.refl : Synced p c c := ⟨.refl, fun _ h => h⟩

theorem Synced.trans (h : Synced p c c') (h' : Synced p c' c'') : Synced p c c'' where
  events :=
    (h.events.imp fun _ he => ⟨he.1, fun hc => ⟨(he.2 hc).1, h'.copies _ (he.2 hc).2⟩⟩).trans h'.events
  copies e he := h'.copies e (h.copies e he)

theorem Refresh.synced (h : Refresh p c c') : Synced p c c' := by
  cases h with
  | @buffer id b l h hl =>
    have hget : (Shelf.buffers.put id l c).buffers.get? id = some l.object :=
      (Store.get?_update h).trans (if_pos rfl)
    refine ⟨hl.syncs.imp fun e he => ⟨he.1, fun hc => ⟨(he.2 hc).1, id, l.object, hget, (he.2 hc).2⟩⟩,
      fun e ⟨id', b', hb', he⟩ => ?_⟩
    obtain ⟨b'', hb'', hcopy⟩ := Store.exists_get?_update
      (R := fun _ b b' => b.StagingCopy e → b'.StagingCopy e) h (hl.stagingCopy ·)
      (fun _ _ _ _ he => he) hb'
    exact ⟨id', b'', hb'', hcopy he⟩
  | texture _ hl => exact ⟨hl.syncs, fun _ he => he⟩

/-- Bringing resources up to date calls handlers for its own point of the pass and encodes nothing but
staging copies, and those only after the pass. -/
theorem synced_of_refreshes (h : ReflTransGen (Refresh p) c c') : Synced p c c' := by
  induction h with
  | refl => exact .refl
  | tail _ h ih => exact ih.trans h.synced

end Context

/-! ## Actions -/

namespace Work

open Context (Refresh Arrange)

variable {α : Type} {id : ResourceId}

theorem on_buffer_refreshes {action : Action Buffer α} (h : Runs (Buffer.Refresh p) action) :
    Runs (Refresh p) (on .buffers id action) := runs_on h .buffer

theorem on_texture_refreshes {action : Action Texture α} (h : Runs (Texture.Refresh p) action) :
    Runs (Refresh p) (on .textures id action) := runs_on h .texture

theorem on_texture_arranges {action : Action Texture α} (h : Runs Texture.Attach action) :
    Runs Arrange (on .textures id action) := runs_on h .texture

theorem bufferHandle_arranges : Runs Arrange (on .buffers id Buffer.handle) :=
  runs_on Buffer.handle_uses .buffer

end Work

end PassForge
