import PassForge.Proofs.Checks
import PassForge.Proofs.Context.Step

/-!
# Sound contexts

In a context that operations lead to, every resource stands under its own id and is sound: its device
objects are there and are what the resource asked for.

* `Context.Sound` is the invariant, `Step.sound` the step lemma and `Reachable.sound` the run lemma.
* `create_sound` and the like: what is registered is sound from the start.
-/

namespace PassForge

open Relation (ReflTransGen)

variable {c c' : Context} {d d' : Device}

/-! ## New resources -/

theorem Buffer.create_eq_ok {limits : Limits} {kind : BufferKind} {desc : BufferDesc}
    {id : ResourceId} {b : Buffer} (h : Buffer.create limits kind desc id = .ok b) :
    b.id = id ∧ b.device = none := by
  unfold Buffer.create at h
  obtain ⟨-, h⟩ := of_check_eq_ok h
  obtain ⟨-, h⟩ := of_check_eq_ok h
  obtain ⟨-, h⟩ := of_check_eq_ok h
  cases hc : desc.contents with
  | none =>
    simp only [hc] at h
    cases h
    exact ⟨rfl, rfl⟩
  | some contents =>
    simp only [hc] at h
    obtain ⟨_, -, h⟩ := bind_eq_ok_iff.1 h
    cases h
    exact ⟨rfl, rfl⟩

theorem Texture.mipCount_pos {id : ResourceId} {desc : TextureDesc} {format : TextureFormat}
    {n : Nat} (h : mipCount id desc format = .ok n) : 0 < n := by
  unfold mipCount at h
  simp only [] at h
  split at h
  · cases h
  · split at h
    · cases h
      exact Nat.one_pos
    · cases h
      exact Nat.lt_of_lt_of_le Nat.one_pos (Nat.le_max_right ..)

theorem Texture.create_eq_ok {limits : Limits} {surfaceFormat : TextureFormat} {kind : TextureKind}
    {layers : Nat} {desc : TextureDesc} {id : ResourceId} {t : Texture}
    (h : Texture.create limits surfaceFormat kind layers desc id = .ok t) :
    t.id = id ∧ t.kind = kind ∧ 0 < t.mips ∧ t.cursor = 0 ∧ t.device = none ∧
      t.sampledView = none ∧ t.storageViews = none ∧ t.targetViews = [] ∧ t.mode = .none ∧
      t.autoAdvance = false := by
  unfold Texture.create at h
  obtain ⟨-, h⟩ := of_check_eq_ok h
  obtain ⟨-, h⟩ := of_check_eq_ok h
  obtain ⟨-, h⟩ := of_check_eq_ok h
  obtain ⟨n, hn, h⟩ := bind_eq_ok_iff.1 h
  obtain ⟨-, h⟩ := of_check_eq_ok h
  cases h
  exact ⟨rfl, rfl, mipCount_pos hn, rfl, rfl, rfl, rfl, rfl, rfl, rfl⟩

theorem Buffer.create_sound {limits : Limits} {kind : BufferKind} {desc : BufferDesc}
    {id : ResourceId} {b : Buffer} (h : Buffer.create limits kind desc id = .ok b) :
    b.id = id ∧ b.Sound d := by
  obtain ⟨hid, hn⟩ := create_eq_ok h
  exact ⟨hid, ⟨fun serial hs => (nomatch hn.symm.trans hs)⟩⟩

theorem Texture.create_sound {limits : Limits} {surfaceFormat : TextureFormat} {kind : TextureKind}
    {layers : Nat} {desc : TextureDesc} {id : ResourceId} {t : Texture} (hk : kind ≠ .surface)
    (h : Texture.create limits surfaceFormat kind layers desc id = .ok t) :
    t.id = id ∧ t.Sound d := by
  obtain ⟨hid, hkind, hmips, hcursor, hd, hs, hv, -⟩ := create_eq_ok h
  refine ⟨hid, ⟨?_, fun _ => hkind ▸ hk, fun image hi => ?_, fun v hsv => ?_, fun vs hvs => ?_⟩⟩
  · rwa [hcursor]
  · exact nomatch hd.symm.trans hi
  · exact nomatch hs.symm.trans hsv
  · exact nomatch hv.symm.trans hvs

/-- A surface does not allow storage access. -/
theorem Texture.ofSurface_sound {id : ResourceId} : (ofSurface d' id).Sound d where
  cursor := Nat.one_pos
  surface h := (nomatch h)
  created _ h := (nomatch h)
  sampled _ h := (nomatch h)
  storage _ h := (nomatch h)

namespace Context

/-- Every resource stands under its own id and is sound. -/
structure Sound (c : Context) : Prop where
  buffers : c.buffers.All fun id b => b.id = id ∧ b.Sound c.device
  textures : c.textures.All fun id t => t.id = id ∧ t.Sound c.device
  samplers : c.samplers.All fun id s => s.id = id ∧ s.Sound c.device
  shaders : c.shaders.All fun _ s => s.Sound

theorem Sound.later (hc : c.Sound) (hd : c.device.Later d) : Sound { c with device := d } where
  buffers := hc.buffers.imp fun _ _ h => ⟨h.1, h.2.later hd⟩
  textures := hc.textures.imp fun _ _ h => ⟨h.1, h.2.later hd⟩
  samplers := hc.samplers.imp fun _ _ h => ⟨h.1, h.2.later hd⟩
  shaders := hc.shaders

section Put

variable {id : ResourceId}

theorem Sound.putBuffer {b : Buffer} {l : Live Buffer} (hc : c.Sound)
    (h : c.buffers.get? id = some b) (hd : c.device.Later l.device) (hid : l.object.id = b.id)
    (hl : b.Sound c.device → l.object.Sound l.device) : Sound (Shelf.buffers.put id l c) :=
  have hb := hc.buffers id b h
  { hc.later hd with buffers := (hc.later hd).buffers.update h ⟨hid.trans hb.1, hl hb.2⟩ }

theorem Sound.putTexture {t : Texture} {l : Live Texture} (hc : c.Sound)
    (h : c.textures.get? id = some t) (hd : c.device.Later l.device) (hid : l.object.id = t.id)
    (hl : t.Sound c.device → l.object.Sound l.device) : Sound (Shelf.textures.put id l c) :=
  have ht := hc.textures id t h
  { hc.later hd with textures := (hc.later hd).textures.update h ⟨hid.trans ht.1, hl ht.2⟩ }

theorem Sound.putSampler {s : Sampler} {l : Live Sampler} (hc : c.Sound)
    (h : c.samplers.get? id = some s) (hl : Sampler.Step ⟨s, c.device⟩ l) :
    Sound (Shelf.samplers.put id l c) :=
  have hs := hc.samplers id s h
  have hd := hl.serves.later
  { hc.later hd with samplers := (hc.later hd).samplers.update h ⟨hl.id.trans hs.1, hl.sound⟩ }

theorem Sound.putShader {s : Shader} {l : Live Shader} (hc : c.Sound)
    (h : c.shaders.get? id = some s) (hl : Shader.Step ⟨s, c.device⟩ l) :
    Sound (Shelf.shaders.put id l c) :=
  { hc.later hl.later with
    shaders := (hc.later hl.later).shaders.update h (hl.sound (hc.shaders id s h)) }

end Put

theorem Touch.sound (h : Touch c c') (hc : c.Sound) : c'.Sound := by
  cases h with
  | buffer h hl =>
    have hstep := Buffer.Step.use hl
    exact hc.putBuffer h hstep.serves.later hstep.id hstep.sound
  | texture h hl =>
    have hstep := Texture.Step.use hl
    exact hc.putTexture h hstep.serves.later hstep.id hstep.sound
  | sampler h hl => exact hc.putSampler h hl
  | shader h hl => exact hc.putShader h (.use hl)
  | layout => exact hc.later (Device.Serves.createBindGroupLayout ..).later
  | pipelineLayout => exact hc.later (Device.Serves.createPipelineLayout ..).later
  | group => exact hc.later (Device.Serves.createBindGroup ..).later

theorem sound_of_touches (h : ReflTransGen Touch c c') (hc : c.Sound) : c'.Sound := by
  induction h with
  | refl => exact hc
  | tail _ h ih => exact h.sound ih

/-- A step keeps a context sound. -/
theorem Step.sound (h : Step c c') (hc : c.Sound) : c'.Sound := by
  cases h with
  | touch h => exact h.sound hc
  | buffer h hl => exact hc.putBuffer h hl.serves.later hl.id hl.sound
  | texture h hl => exact hc.putTexture h hl.serves.later hl.id hl.sound
  | shader h hl => exact hc.putShader h hl
  | addBuffer _ _ _ hb => exact { hc with buffers := hc.buffers.insert (Buffer.create_sound hb) }
  | addTexture _ _ hk _ ht =>
    exact { hc with textures := hc.textures.insert (Texture.create_sound hk ht) }
  | addSurface => exact { hc with textures := hc.textures.insert ⟨rfl, Texture.ofSurface_sound⟩ }
  | addSampler => exact { hc with samplers := hc.samplers.insert ⟨rfl, ⟨fun _ h => (nomatch h)⟩⟩ }
  | addShader => exact { hc with shaders := hc.shaders.insert fun _ h => (nomatch h) }
  | mint | addColor | addDepth | registerPipeline => exact { hc with }
  | renderPipeline => exact hc.later (.createRenderPipeline ..)
  | computePipeline => exact hc.later (.createComputePipeline ..)
  | encode | callHook => exact hc.later (.log _)
  | nextFrame => exact hc.later .nextFrame
  | loseSurface => exact hc.later .loseSurface

/-- **What operations lead to is sound.** -/
theorem Reachable.sound (h : Reachable c) : c.Sound := by
  obtain ⟨d, hd⟩ := h
  induction hd with
  | refl =>
    exact ⟨fun _ _ h => (nomatch h), fun _ _ h => (nomatch h), fun _ _ h => (nomatch h),
      fun _ _ h => (nomatch h)⟩
  | tail _ h ih => exact h.sound ih

end Context

end PassForge
