import PassForge.Proofs.Context.Operations
import PassForge.Proofs.Context.Sound
import PassForge.Proofs.Context.Spared

/-!
# What is bound

A bind group names device objects: the device buffer of a buffer, a view of a texture, the device
sampler of a sampler.

* `Context.HasBuffer`, `HasTexture` and `HasSampler` say which resource a device object belongs to, and
  that the device has made it as the resource asked for.
* `on_bufferHandle`, `on_bindView` and `on_samplerHandle`: what using a resource yields is such an
  object.
* `Context.Retains` relates a context to a later one in which the resources still have their device
  objects; there the three still hold.
-/

namespace PassForge

open Context (Touch)
open Relation (ReflTransGen)

variable {c c' c'' : Context} {id : ResourceId} {serial : Nat}

namespace Context

/-! ## Device objects of resources -/

/-- A device buffer that was made for a buffer, with the usages of its kind. -/
def HasBuffer (c : Context) (id : ResourceId) (kind : BufferKind) (serial : Nat) : Prop :=
  ∃ b, c.buffers.get? id = some b ∧ b.kind = kind ∧ b.device = some serial ∧
    .bufferCreated serial b.label b.size kind.usage ∈ c.device.trace

/-- A view of the device texture of a texture: of one mip for storage access, of all mips otherwise,
and of all layers. -/
def HasTexture (c : Context) (id : ResourceId) (format : TextureFormat) (storage : Bool) (v : View) :
    Prop :=
  ∃ t, c.textures.get? id = some t ∧ t.format = format ∧ t.Shows storage c.device v

/-- A device sampler that was made for a sampler, with the state of the sampler. -/
def HasSampler (c : Context) (id : ResourceId) (kind : SamplerKind) (serial : Nat) : Prop :=
  ∃ s, c.samplers.get? id = some s ∧ s.kind = kind ∧ s.device = some serial ∧
    .samplerCreated serial s.desc.label s.state ∈ c.device.trace

/-! ## Later contexts -/

/-- In the later context the resources are the same and have the device objects that they had, on
the same surface. -/
structure Retains (c c' : Context) : Prop where
  buffers : c'.buffers.map Buffer.bare = c.buffers.map Buffer.bare
  textures : c'.textures.map Texture.bare = c.textures.map Texture.bare
  samplers : c'.samplers.map Sampler.bare = c.samplers.map Sampler.bare
  deviceBuffers : c.buffers.Keeps Buffer.device c'.buffers
  deviceTextures : c.textures.Keeps Texture.device c'.textures
  deviceSamplers : c.samplers.Keeps Sampler.device c'.samplers
  later : c.device.Later c'.device
  surface : c'.device.surface = c.device.surface

namespace Retains

theorem trans (h : Retains c c') (h' : Retains c' c'') : Retains c c'' where
  buffers := h'.buffers.trans h.buffers
  textures := h'.textures.trans h.textures
  samplers := h'.samplers.trans h.samplers
  deviceBuffers := h.deviceBuffers.trans h'.deviceBuffers
  deviceTextures := h.deviceTextures.trans h'.deviceTextures
  deviceSamplers := h.deviceSamplers.trans h'.deviceSamplers
  later := h.later.trans h'.later
  surface := h'.surface.trans h.surface

/-- A context with the same buffers, textures and samplers on a later state of the device. -/
theorem of_eq (hb : c'.buffers = c.buffers) (ht : c'.textures = c.textures)
    (hs : c'.samplers = c.samplers) (hd : c.device.Later c'.device)
    (hsurface : c'.device.surface = c.device.surface) : Retains c c' :=
  ⟨by rw [hb], by rw [ht], by rw [hs], hb ▸ .refl, ht ▸ .refl, hs ▸ .refl, hd, hsurface⟩

/-- Under an id of a context with a device object there is the same resource with that object. -/
theorem exists_keeps {τ β : Type} {s s' : Store τ} {f : τ → β} {device : τ → Option Nat} {a : τ}
    (hmap : s'.map f = s.map f) (hkeeps : s.Keeps device s') (ha : s.get? id = some a) :
    ∃ a', s'.get? id = some a' ∧ f a' = f a ∧
      ∀ serial, device a = some serial → device a' = some serial := by
  obtain ⟨a', ha', heq⟩ := Store.exists_of_map hmap ha
  refine ⟨a', ha', heq, fun serial hs => ?_⟩
  obtain ⟨a₁, h₁, hdevice⟩ := hkeeps id _ serial ha hs
  cases h₁.symm.trans ha'
  exact hdevice

end Retains

theorem Spared.retains (h : Spared c c') : Retains c c' :=
  { h with later := h.device.later, surface := h.device.surface }

theorem retains_of_touches (h : ReflTransGen Touch c c') : Retains c c' :=
  (spared_of_touches h).retains

theorem HasBuffer.later {kind : BufferKind} (h : c.HasBuffer id kind serial) (hc : Retains c c') :
    c'.HasBuffer id kind serial := by
  obtain ⟨b, hb, hkind, hs, hmade⟩ := h
  obtain ⟨b', hb', heq, hdevice⟩ := Retains.exists_keeps hc.buffers hc.deviceBuffers hb
  have hlabel : b'.label = b.label := (congrArg Buffer.label heq : b'.bare.label = b.bare.label)
  have hsize : b'.size = b.size := (congrArg Buffer.size heq : b'.bare.size = b.bare.size)
  have hkind' : b'.kind = b.kind := (congrArg Buffer.kind heq : b'.bare.kind = b.bare.kind)
  refine ⟨b', hb', hkind'.trans hkind, hdevice serial hs, ?_⟩
  rw [hlabel, hsize]
  exact hc.later.mem hmade

theorem HasTexture.later {format : TextureFormat} {storage : Bool} {v : View}
    (h : c.HasTexture id format storage v) (hc : Retains c c') :
    c'.HasTexture id format storage v := by
  obtain ⟨t, ht, hformat, hshows⟩ := h
  obtain ⟨t', ht', heq, hdevice⟩ := Retains.exists_keeps hc.textures hc.deviceTextures ht
  have hformat' := Texture.field_of_bare Texture.format (fun _ => rfl) heq
  exact ⟨t', ht', hformat'.trans hformat, hshows.later heq hc.later hc.surface hdevice⟩

theorem HasSampler.later {kind : SamplerKind} (h : c.HasSampler id kind serial)
    (hc : Retains c c') : c'.HasSampler id kind serial := by
  obtain ⟨s, hs, hkind, hd, hmade⟩ := h
  obtain ⟨s', hs', heq, hdevice⟩ := Retains.exists_keeps hc.samplers hc.deviceSamplers hs
  have hdesc : s'.desc = s.desc := (congrArg Sampler.desc heq : s'.bare.desc = s.bare.desc)
  have hkind' : s'.kind = s.kind := (congrArg Sampler.kind heq : s'.bare.kind = s.bare.kind)
  have hstate : s'.state = s.state := (congrArg Sampler.state heq : s'.bare.state = s.bare.state)
  refine ⟨s', hs', hkind'.trans hkind, hdevice serial hd, ?_⟩
  rw [hdesc, hstate]
  exact hc.later.mem hmade

end Context

/-! ## Using resources -/

section Use

variable {τ α : Type} {shelf : Shelf τ} {action : Action τ α} {r : α}

/-- An action that succeeds has found its resource and put it back. -/
theorem on_eq_ok (h : Work.on shelf id action c = .ok r c') :
    ∃ a l, (shelf.get c).get? id = some a ∧ action ⟨a, c.device⟩ = .ok r l ∧
      c' = shelf.put id l c := by
  cases hget : (shelf.get c).get? id with
  | none => exact nomatch (on_of_none hget).symm.trans h
  | some a =>
    cases ha : action ⟨a, c.device⟩ with
    | error e l => exact nomatch (on_of_error hget ha).symm.trans h
    | ok r' l =>
      cases (on_of_ok hget ha).symm.trans h
      exact ⟨a, l, rfl, ha, rfl⟩

variable (hc : c.Sound)
include hc

/-- Using a buffer yields its device buffer. -/
theorem on_bufferHandle {b : Buffer} (hb : c.buffers.get? id = some b)
    (h : Work.on .buffers id Buffer.handle c = .ok serial c') :
    c'.HasBuffer id b.kind serial := by
  have htouches : ReflTransGen Touch c c' :=
    (Work.on_buffer_touches Buffer.handle_uses).of_eq_ok h
  obtain ⟨b₀, l, h₀, hl, rfl⟩ := on_eq_ok h
  cases h₀.symm.trans hb
  have hget : (Shelf.buffers.put id l c).buffers.get? id = some l.object :=
    @Shelf.get?_put _ .buffers _ c id b l hb
  have hkind : l.object.kind = b.kind := by
    obtain ⟨-, rfl | ⟨-, rfl⟩⟩ := Buffer.handle_eq_ok hl <;> rfl
  obtain ⟨hserial, -⟩ := Buffer.handle_eq_ok hl
  have hsound := ((Context.sound_of_touches htouches hc).buffers id l.object hget).2
  exact ⟨l.object, hget, hkind, hserial, hkind ▸ hsound.created serial hserial⟩

/-- Using a texture for a binding yields a view of the range that the binding takes. -/
theorem on_bindView {t : Texture} {storage : Bool} {v : View} (ht : c.textures.get? id = some t)
    (h : Work.on .textures id (Texture.bindView storage) c = .ok v c') :
    c'.HasTexture id t.format storage v := by
  obtain ⟨t₀, l, h₀, hl, rfl⟩ := on_eq_ok h
  cases h₀.symm.trans ht
  have hget : (Shelf.textures.put id l c).textures.get? id = some l.object :=
    @Shelf.get?_put _ .textures _ c id t l ht
  have huses : ReflTransGen Texture.Use ⟨t, c.device⟩ l :=
    (Texture.bindView_uses storage).of_eq_ok hl
  have hformat := Texture.field_of_bare Texture.format (fun _ => rfl) (Texture.bare_of_uses huses)
  have hsound := (hc.textures id t ht).2
  obtain ⟨e, l', -, herror⟩ | ⟨-, v', l', hok, hshows⟩ :=
    Texture.bindView_spec (l := ⟨t, c.device⟩) storage hsound
  · exact nomatch herror.symm.trans hl
  · cases hok.symm.trans hl
    exact ⟨l.object, hget, hformat, hshows⟩

/-- Using a sampler yields its device sampler. -/
theorem on_samplerHandle {s : Sampler} (hs : c.samplers.get? id = some s)
    (h : Work.on .samplers id Sampler.handle c = .ok serial c') :
    c'.HasSampler id s.kind serial := by
  have htouches : ReflTransGen Touch c c' :=
    (Work.on_sampler_touches Sampler.handle_runs).of_eq_ok h
  obtain ⟨s₀, l, h₀, hl, rfl⟩ := on_eq_ok h
  cases h₀.symm.trans hs
  have hget : (Shelf.samplers.put id l c).samplers.get? id = some l.object :=
    @Shelf.get?_put _ .samplers _ c id s l hs
  have hkind : l.object.kind = s.kind := by
    obtain ⟨-, rfl | ⟨-, rfl⟩⟩ := Sampler.handle_eq_ok hl <;> rfl
  obtain ⟨hserial, -⟩ := Sampler.handle_eq_ok hl
  have hsound := ((Context.sound_of_touches htouches hc).samplers id l.object hget).2
  exact ⟨l.object, hget, hkind, hserial, hsound.created serial hserial⟩

end Use

end PassForge
