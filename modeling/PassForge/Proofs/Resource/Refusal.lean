import PassForge.Proofs.Resource.Acquire
import PassForge.Proofs.Resource.TextureViews

/-!
# What resources refuse

Bringing a buffer or a texture up to date, and rendering into a texture, can fail for a few reasons
only, whatever was done with the resource before.

* `BufferWrite.Refused` and `TextureWrite.Refused` say why a write is refused, and
  `Texture.TargetRefused` why a layer cannot be rendered into. `Texture.Missing` is a texture on the
  surface without an image of the frame.
* `Handler.Asked` says of what a handler has become that its last call asked for a write.
* `Buffer.acquire_eq_error`, `Texture.acquire_eq_error` and `Texture.attachView_eq_error`: there are no
  other reasons. Each speaks of the resource as the failure leaves it.
-/

namespace PassForge

open Relation (ReflTransGen)

/-! ## Reasons -/

/-- Why a write into a buffer is refused. -/
inductive BufferWrite.Refused (w : BufferWrite) (b : Buffer) : ResourceError → Prop
  | offset (h : w.offset % 4 ≠ 0) : Refused w b (.misaligned "write offset" w.offset 4)
  | length (h : w.data.size % 4 ≠ 0) : Refused w b (.misaligned "write length" w.data.size 4)
  | bounds (h : b.size < w.offset + w.data.size) :
      Refused w b (.writeOutOfBounds b.id w.offset w.data.size b.size)

/-- Why a write into a texture is refused. -/
inductive TextureWrite.Refused (w : TextureWrite) (t : Texture) : ResourceError → Prop
  | layer (h : t.layers ≤ w.layer) : Refused w t (.layerOutOfRange t.id w.layer t.layers)
  | mip (h : t.mips ≤ w.mip) : Refused w t (.mipLevelOutOfRange t.id w.mip)

/-- A texture on the surface, of which the device has no image. -/
def Texture.Missing (t : Texture) (d : Device) : Prop := t.kind = .surface ∧ d.surface = none

/-- The last call of a handler, which was for a point of a pass, has asked for a write. -/
def Handler.Asked {ω : Type} (h : Option (Handler ω)) (p : SyncPoint) (w : ω) : Prop :=
  ∃ before : Handler ω, h = some (before.called p) ∧ w ∈ before.ask p

/-! ## Buffers -/

namespace Buffer

variable {l l' : Live Buffer} {p : SyncPoint} {e : ResourceError}

theorem checkWrite_eq_error {b : Buffer} {w : BufferWrite}
    (h : checkWrite b.id b.size w.offset w.data.size = .error e) : w.Refused b e := by
  unfold checkWrite at h
  split at h
  · next hoffset =>
    cases h
    exact .offset hoffset
  · split at h
    · next hlength =>
      cases h
      exact .length hlength
    · split at h
      · next hbounds =>
        cases h
        exact .bounds hbounds
      · cases h

/-- A write that fails is refused. -/
theorem write_eq_error {w : BufferWrite} (h : write w l = .error e l') :
    l' = l ∧ w.Refused l.object e := by
  unfold write at h
  rw [Action.object_bind] at h
  cases hcheck : checkWrite l.object.id l.object.size w.offset w.data.size with
  | error e' =>
    rw [hcheck] at h
    cases h
    exact ⟨rfl, checkWrite_eq_error hcheck⟩
  | ok u =>
    rw [hcheck] at h
    replace h : (handle >>= fun serial =>
      Action.log (.bufferWritten serial w.offset w.data)) l = .error e l' := h
    obtain ⟨serial, l₁, hhandle⟩ := exists_handle_eq_ok l
    rw [bind_of_ok hhandle] at h
    cases h

theorem askHandler_asked {writes : List BufferWrite} {w : BufferWrite}
    (h : askHandler p l = .ok writes l') (hw : w ∈ writes) : Handler.Asked l'.object.handler p w := by
  unfold askHandler at h
  rw [Action.object_bind] at h
  cases hh : l.object.handler with
  | none =>
    rw [hh] at h
    cases h
    cases hw
  | some handler =>
    rw [hh] at h
    cases h
    exact ⟨handler, rfl, hw⟩

theorem exists_askHandler (l : Live Buffer) : ∃ writes l', askHandler p l = .ok writes l' := by
  unfold askHandler
  rw [Action.object_bind]
  cases l.object.handler with
  | none => exact ⟨_, _, rfl⟩
  | some handler => exact ⟨_, _, rfl⟩

/-- A map buffer always has a staging buffer. -/
theorem exists_staging (hk : l.object.kind = .map) : ∃ serial l', staging l = .ok serial l' := by
  unfold staging
  rw [Action.object_bind, if_neg fun hne => hne hk]
  cases l.object.stage with
  | some serial => exact ⟨_, _, rfl⟩
  | none => exact ⟨_, _, rfl⟩

/-- Bringing a buffer up to date fails only if its handler has asked for a write that is refused. -/
theorem acquire_eq_error (h : acquire p l = .error e l') :
    ∃ w, Handler.Asked l'.object.handler p w ∧ w.Refused l'.object e := by
  unfold acquire at h
  obtain ⟨serial, l₁, hhandle⟩ := exists_handle_eq_ok l
  rw [bind_of_ok hhandle] at h
  obtain ⟨writes, l₂, hask⟩ := exists_askHandler (p := p) l₁
  rw [bind_of_ok hask] at h
  obtain h | ⟨u, l₃, -, h⟩ := bind_eq_error h
  · obtain ⟨w, hw, l₃, hsteps, hround⟩ := forM_eq_error write_sameHandler h
    obtain ⟨rfl, hrefused⟩ := write_eq_error hround
    have hsame : l'.object.handler = l₂.object.handler :=
      eq_of_steps (f := fun l : Live Buffer => l.object.handler) hsteps
    exact ⟨w, hsame ▸ askHandler_asked hask hw, hrefused⟩
  · rw [Action.object_bind] at h
    split at h
    · next hcopy =>
      obtain ⟨target, l₄, hstaging⟩ := exists_staging hcopy.1
      rw [bind_of_ok hstaging] at h
      obtain ⟨source, l₅, hsource⟩ := exists_handle_eq_ok l₄
      rw [bind_of_ok hsource] at h
      cases h
    · cases h

end Buffer

/-! ## Textures -/

namespace Texture

variable {l l' : Live Texture} {p : SyncPoint} {e : ResourceError} {layer : Nat}

/-- A write that fails is refused. -/
theorem write_eq_error {serial : Nat} {w : TextureWrite} (h : write serial w l = .error e l') :
    l' = l ∧ w.Refused l.object e := by
  unfold write at h
  rw [Action.object_bind] at h
  split at h
  · next hlayer =>
    cases h
    exact ⟨rfl, .layer hlayer⟩
  · split at h
    · next hmip =>
      cases h
      exact ⟨rfl, .mip hmip⟩
    · cases h

theorem askHandler_asked {writes : List TextureWrite} {w : TextureWrite}
    (h : askHandler p l = .ok writes l') (hw : w ∈ writes) : Handler.Asked l'.object.handler p w := by
  unfold askHandler at h
  rw [Action.object_bind] at h
  cases hh : l.object.handler with
  | none =>
    rw [hh] at h
    cases h
    cases hw
  | some handler =>
    rw [hh] at h
    cases h
    exact ⟨handler, rfl, hw⟩

theorem exists_askHandler (l : Live Texture) : ∃ writes l', askHandler p l = .ok writes l' := by
  unfold askHandler
  rw [Action.object_bind]
  cases l.object.handler with
  | none => exact ⟨_, _, rfl⟩
  | some handler => exact ⟨_, _, rfl⟩

theorem handle_eq_error (h : handle l = .error e l') :
    l' = l ∧ e = .surfaceUnavailable ∧ l.object.Missing l.device := by
  obtain ⟨image, -, heq⟩ | ⟨hk, hs, heq⟩ | ⟨-, -, heq⟩ := handle_cases l
  · exact nomatch heq.symm.trans h
  · cases heq.symm.trans h
    exact ⟨rfl, rfl, hk, hs⟩
  · exact nomatch heq.symm.trans h

/-- Bringing a texture up to date fails only if the image of the frame is missing, or if its handler
has asked for a write that is refused. -/
theorem acquire_eq_error (h : acquire p l = .error e l') :
    (e = .surfaceUnavailable ∧ l'.object.Missing l'.device) ∨
      ∃ w, Handler.Asked l'.object.handler p w ∧ w.Refused l'.object e := by
  obtain h | ⟨serial, l₁, -, h⟩ := bind_eq_error h
  · obtain ⟨rfl, he, hmissing⟩ := handle_eq_error h
    exact .inl ⟨he, hmissing⟩
  obtain ⟨writes, l₂, hask⟩ := exists_askHandler (p := p) l₁
  rw [bind_of_ok hask] at h
  obtain ⟨w, hw, l₃, hsteps, hround⟩ := forM_eq_error (write_object serial) h
  obtain ⟨rfl, hrefused⟩ := write_eq_error hround
  have hsame : l'.object = l₂.object := eq_of_steps (f := Live.object) hsteps
  exact .inr ⟨w, hsame ▸ askHandler_asked hask hw, hrefused⟩

/-- Reading a view for rendering that is there fails only if it is of a missing image. -/
theorem targetView_eq_error (hv : l.object.kind = .surface ∨
    (l.object.targetViews.lookup l.object.targetLayer).isSome) (h : targetView l = .error e l') :
    l' = l ∧ e = .surfaceUnavailable ∧ l.object.Missing l.device := by
  unfold targetView at h
  rw [Action.object_bind] at h
  by_cases hk : l.object.kind = .surface
  · rw [if_pos hk] at h
    obtain himage | ⟨s, l₁, -, h⟩ := bind_eq_error h
    · unfold Action.surface at himage
      cases hs : l.device.surface with
      | some s =>
        rw [hs] at himage
        cases himage
      | none =>
        rw [hs] at himage
        cases himage
        exact ⟨rfl, rfl, hk, hs⟩
    · cases h
  · obtain ⟨v, hv⟩ := Option.isSome_iff_exists.1 (hv.resolve_left hk)
    rw [if_neg hk, hv] at h
    cases h

/-- Reading the view for rendering just after its layer was selected fails only if the layer cannot be
rendered into, or if the image of the frame is missing. -/
theorem attachView_eq_error (h : attachView layer l = .error e l') :
    (e = .surfaceUnavailable ∧ l'.object.Missing l'.device) ∨ l'.object.TargetRefused layer e := by
  obtain h | ⟨u, l₁, hselect, hview⟩ := bind_eq_error h
  · obtain ⟨e', hrefused, heq⟩ | ⟨-, -, ⟨-, heq⟩ | ⟨-, -, image, l₁, -, heq⟩⟩ := useAsTarget_cases layer l
    all_goals cases heq.symm.trans h
    exact .inr hrefused
  · obtain ⟨hmode, hlayer, hviews⟩ := useAsTarget_eq_ok hselect
    rw [view_apply, hmode] at hview
    obtain ⟨rfl, he, hmissing⟩ := targetView_eq_error (hlayer ▸ hviews) hview
    exact .inl ⟨he, hmissing⟩

end Texture

end PassForge
