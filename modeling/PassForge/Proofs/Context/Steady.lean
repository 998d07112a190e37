import PassForge.Proofs.Context.Durable
import PassForge.Proofs.Context.Identity
import PassForge.Proofs.Context.Refresh

/-!
# What recording leaves

Recording a pass without a hook gives no resource another handler and leaves the image of the frame: it
calls handlers, makes device objects and selects layers to render into.

* `Buffer.steady`, `Texture.steady`: what recording leaves of a resource.
* `Context.Steady` puts these together. `Context.Refresh.steady` and `Context.Arrange.steady` are the
  step lemmas and `Context.steady_of_runs` the run lemma.
-/

namespace PassForge

open Relation (ReflTransGen)

variable {p : SyncPoint}

/-! ## Resources -/

namespace Buffer

variable {l l' : Live Buffer}

/-- What no step changes about a buffer, and the replies of its handler. -/
def steady (b : Buffer) : Buffer × Option (List SyncPoint → SyncPoint → Option (List BufferWrite)) :=
  (b.fixed, b.handler.map Handler.reply)

theorem Refresh.steady (h : Refresh p l l') : l'.object.steady = l.object.steady := by
  refine Prod.ext h.step.fixed ?_
  cases h with
  | use h =>
    cases h
    rfl
  | ask hb =>
    -- a handler that is called gives the same replies
    show some _ = Option.map Handler.reply _
    rw [hb]
    rfl
  | write | stage | copy => rfl

end Buffer

namespace Texture

variable {l l' : Live Texture}

/-- What no step changes about a texture, and the replies of its handler. -/
def steady (t : Texture) : Texture × Option (List SyncPoint → SyncPoint → Option (List TextureWrite)) :=
  (t.fixed, t.handler.map Handler.reply)

theorem Refresh.steady (h : Refresh p l l') : l'.object.steady = l.object.steady := by
  refine Prod.ext h.step.fixed ?_
  cases h with
  | ask ht =>
    show some _ = Option.map Handler.reply _
    rw [ht]
    rfl
  | make | write => rfl

theorem Attach.steady (h : Attach l l') : l'.object.steady = l.object.steady := by
  refine Prod.ext h.step.fixed ?_
  cases h <;> rfl

end Texture

/-! ## Contexts -/

namespace Context

variable {c c' c'' : Context} {id : ResourceId}

/-- A later state of a context with the same image of the frame, in which buffers and textures are still
there, with handlers that give the same replies. -/
structure Steady (c c' : Context) : Prop where
  surface : c'.device.surface = c.device.surface
  buffers : c.buffers.Lasts (fun b b' => b'.steady = b.steady) c'.buffers
  textures : c.textures.Lasts (fun t t' => t'.steady = t.steady) c'.textures

namespace Steady

theorem refl : Steady c c := ⟨rfl, .refl fun _ => rfl, .refl fun _ => rfl⟩

theorem trans (h : Steady c c') (h' : Steady c' c'') : Steady c c'' where
  surface := h'.surface.trans h.surface
  buffers := h.buffers.trans (fun _ _ _ h h' => h'.trans h) h'.buffers
  textures := h.textures.trans (fun _ _ _ h h' => h'.trans h) h'.textures

theorem putBuffer {b : Buffer} {l : Live Buffer} (h : c.buffers.get? id = some b)
    (hd : l.device.surface = c.device.surface) (hl : l.object.steady = b.steady) :
    Steady c (Shelf.buffers.put id l c) :=
  ⟨hd, .update (fun _ => rfl) h hl, .refl fun _ => rfl⟩

theorem putTexture {t : Texture} {l : Live Texture} (h : c.textures.get? id = some t)
    (hd : l.device.surface = c.device.surface) (hl : l.object.steady = t.steady) :
    Steady c (Shelf.textures.put id l c) :=
  ⟨hd, .refl fun _ => rfl, .update (fun _ => rfl) h hl⟩

/-- What is logged leaves the image of the frame. -/
theorem log (e : Event) : Steady c { c with device := c.device.log e } :=
  ⟨rfl, .refl fun _ => rfl, .refl fun _ => rfl⟩

end Steady

theorem Refresh.steady (h : Refresh p c c') : Steady c c' := by
  cases h with
  | buffer h hl => exact .putBuffer h hl.step.serves.surface hl.steady
  | texture h hl => exact .putTexture h hl.step.serves.surface hl.steady

theorem Arrange.steady (h : Arrange c c') : Steady c c' := by
  cases h with
  | buffer h hl =>
    exact .putBuffer h hl.serves.surface (Buffer.Refresh.use hl : Buffer.Refresh .before _ _).steady
  | texture h hl => exact .putTexture h hl.step.serves.surface hl.steady

theorem steady_of_runs (h : ReflTransGen Steady c c') : Steady c c' := by
  induction h with
  | refl => exact .refl
  | tail _ h ih => exact ih.trans h

end Context

end PassForge
