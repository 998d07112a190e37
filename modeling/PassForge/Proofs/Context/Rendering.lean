import PassForge.Proofs.Context.Durable
import PassForge.Proofs.Context.Identity
import PassForge.Proofs.Context.Refresh
import PassForge.Proofs.Context.Sound

/-!
# Views that are rendered into

Rendering into a layer of a texture reads a view of that layer of the device texture, or the view of
the image of the frame if the texture stands for the surface.

* `Texture.Persistent` are the properties of textures that no operation on a context can destroy;
  `Context.Reachable.textures` is the induction over operations, done once for all of them.
* `Texture.KeepsTargets` is such a property: the views for rendering that a texture keeps are views of
  its device texture.
* `Texture.Targets` says what a view for rendering shows, and `Work.targetView_renders` that every view
  that is read for rendering shows it.
-/

namespace PassForge

open Relation (ReflTransGen)

/-! ## Textures -/

namespace Texture

variable {l l' : Live Texture} {t t' : Texture} {d d' : Device} {layer : Nat} {v : View}

/-- A property of a texture and its device that new textures have, that every step of a texture
keeps, and that other changes of the device keep as well. -/
structure Persistent (P : Texture → Device → Prop) : Prop where
  created {limits : Limits} {surfaceFormat : TextureFormat} {kind : TextureKind} {layers : Nat}
    {desc : TextureDesc} {id : ResourceId} {t : Texture} {d : Device} :
    create limits surfaceFormat kind layers desc id = .ok t → P t d
  surface {d d' : Device} {id : ResourceId} : P (ofSurface d' id) d
  later {t : Texture} {d d' : Device} : d.Later d' → P t d → P t d'
  step {l l' : Live Texture} : Step l l' → P l.object l.device → P l'.object l'.device

/-- A device texture that is there stays. -/
theorem Step.device {image : Nat} (h : Step l l') (hi : l.object.device = some image) :
    l'.object.device = some image := by
  cases h with
  | use h => exact h.device hi
  | write | ask | keepTarget | target | point | advance | setAutoAdvance | setHandler => exact hi

/-- The views for rendering that a texture keeps are views of its device texture, each of the layer
that it is kept for. -/
def KeepsTargets (t : Texture) (d : Device) : Prop :=
  ∀ p ∈ t.targetViews, ∃ image, t.device = some image ∧ t.ShowsLayer d image p.1 p.2

theorem keepsTargets_of_nil (h : t.targetViews = []) : t.KeepsTargets d := fun p hp => by
  rw [h] at hp
  exact nomatch hp

theorem KeepsTargets.later (h : t.KeepsTargets d) (hd : d.Later d') : t.KeepsTargets d' :=
  fun p hp => by
    obtain ⟨image, hi, hview⟩ := h p hp
    exact ⟨image, hi, hview.later hd⟩

theorem Step.keepsTargets (h : Step l l') (hl : l.object.KeepsTargets l.device) :
    l'.object.KeepsTargets l'.device := by
  have hd := hl.later h.serves.later
  cases h with
  | use h =>
    cases h with
    | make hk hn =>
      -- a texture without a device texture keeps no views yet
      intro p hp
      obtain ⟨image, hi, -⟩ := hl p hp
      exact nomatch hn.symm.trans hi
    | view | keepSampled | keepStorage | sampled | storage | advance => exact hd
  | keepTarget hk _ hi _ =>
    intro p hp
    obtain hp | hp := List.mem_append.1 hp
    · exact hd p hp
    · obtain rfl := List.mem_singleton.1 hp
      exact ⟨_, image?_of_ne hk ▸ hi, showsLayer_of_hasView Device.hasView_createView⟩
  | write | ask | target | point | advance | setAutoAdvance | setHandler => exact hd

theorem persistent_keepsTargets : Persistent KeepsTargets where
  created h := keepsTargets_of_nil (create_eq_ok h).2.2.2.2.2.2.2.1
  surface := keepsTargets_of_nil rfl
  later hd h := h.later hd
  step := Step.keepsTargets

/-- A view for rendering into a layer of a texture: the view of the image of the frame, or one of that
layer of a device texture that was made as the texture asks for. -/
def Targets (t : Texture) (d : Device) (layer : Nat) (v : View) : Prop :=
  if t.kind = .surface then ∃ s, d.surface = some s ∧ v = s.view
  else ∃ image, t.device = some image ∧ .textureCreated image t.request ∈ d.trace ∧
    t.ShowsLayer d image layer v

/-- A view for rendering shows the same of a later state of its texture, as long as the image of the
frame is the same. -/
theorem Targets.later (h : t.Targets d layer v) (hfixed : t'.fixed = t.fixed)
    (hdevice : ∀ image, t.device = some image → t'.device = some image) (hd : d.Later d')
    (hs : d'.surface = d.surface) : t'.Targets d' layer v := by
  have hkind : t'.kind = t.kind := (congrArg Texture.kind hfixed :)
  have hshows : t'.ShowsLayer = t.ShowsLayer := (congrArg ShowsLayer hfixed :)
  have hrequest : t'.request = t.request := (congrArg Texture.request hfixed :)
  unfold Targets at h ⊢
  rw [hkind, hs, hshows, hrequest]
  split at h
  · next hk => rwa [if_pos hk]
  · next hk =>
    obtain ⟨image, hi, hcreated, hview⟩ := h
    rw [if_neg hk]
    exact ⟨image, hdevice image hi, hd.mem hcreated, hview.later hd⟩

/-- A view that a sound texture keeps for a layer is one for rendering into it. -/
theorem Sound.targets (hs : t.Sound d) (ht : t.KeepsTargets d) (hk : t.kind ≠ .surface)
    (hv : t.targetViews.lookup layer = some v) : t.Targets d layer v := by
  obtain ⟨before, rest, heq, -⟩ := List.lookup_eq_some_iff.1 hv
  have hmem : (layer, v) ∈ t.targetViews := heq ▸ List.mem_append_right _ List.mem_cons_self
  obtain ⟨image, hi, hview⟩ := ht (layer, v) hmem
  unfold Targets
  rw [if_neg hk]
  exact ⟨image, hi, hs.created image hi, hview⟩

/-- So is every view that is read just after its layer was selected. -/
theorem attachView_targets (h : attachView layer l = .ok v l') (hs : l'.object.Sound l'.device)
    (ht : l'.object.KeepsTargets l'.device) : l'.object.Targets l'.device layer v := by
  obtain ⟨hk, hv⟩ | ⟨hk, hv⟩ := attachView_eq_ok h
  · unfold Targets
    rwa [if_pos hk]
  · exact hs.targets ht hk hv

end Texture

/-! ## Contexts -/

namespace Context

variable {c c' : Context} {P : Texture → Device → Prop} {texture : ResourceId} {layer : Nat}
  {v : View}

/-- A step keeps a persistent property of all textures. -/
theorem Step.textures (hP : Texture.Persistent P) (h : Step c c')
    (hc : c.textures.All fun _ t => P t c.device) : c'.textures.All fun _ t => P t c'.device := by
  have hlater : c.textures.All fun _ t => P t c'.device := hc.imp fun _ _ => hP.later h.later
  cases h with
  | touch h =>
    cases h with
    | @texture id t _ h hl => exact hlater.update h (hP.step (.use hl) (hc id t h))
    | _ => exact hlater
  | @texture id t _ h hl => exact hlater.update h (hP.step hl (hc id t h))
  | addTexture _ _ _ _ ht => exact hlater.insert (hP.created ht)
  | addSurface => exact hlater.insert hP.surface
  | _ => exact hlater

/-- In a context that operations lead to, every texture has every persistent property. -/
theorem Reachable.textures (hP : Texture.Persistent P) (h : Reachable c) :
    c.textures.All fun _ t => P t c.device := by
  obtain ⟨d, hd⟩ := h
  induction hd with
  | refl => exact fun _ _ h => (nomatch h)
  | tail _ h ih => exact h.textures hP ih

/-- A view for rendering into a layer of a texture. -/
def Renders (c : Context) (texture : ResourceId) (layer : Nat) (v : View) : Prop :=
  ∃ t, c.textures.get? texture = some t ∧ t.Targets c.device layer v

theorem Renders.lasting (h : c.Renders texture layer v) (hc : Lasting c c')
    (hd : c.device.Later c'.device) (hs : c'.device.surface = c.device.surface) :
    c'.Renders texture layer v := by
  obtain ⟨t, ht, hv⟩ := h
  obtain ⟨t', ht', hbecomes⟩ := hc.texture ht
  have hfixed : t'.fixed = t.fixed := hbecomes.eq fun _ _ hl => hl.fixed
  have hdevice (image : Nat) : t.device = some image → t'.device = some image :=
    hbecomes.keeps (P := fun t => t.device = some image) fun _ _ hl => hl.device
  exact ⟨t', ht', hv.later hfixed hdevice hd hs⟩

theorem Arrange.serves (h : Arrange c c') : c.device.Serves c'.device := by
  cases h with
  | buffer _ hl => exact (Buffer.Step.use hl).serves
  | texture _ hl => exact hl.step.serves

theorem serves_of_arranges (h : ReflTransGen Arrange c c') : c.device.Serves c'.device := by
  induction h with
  | refl => exact .refl
  | tail _ h ih => exact ih.trans h.serves

end Context

end PassForge
