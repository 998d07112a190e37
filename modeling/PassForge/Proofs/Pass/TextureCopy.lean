import PassForge.Proofs.Pass.Encoding
import PassForge.Proofs.Resource.MipExtent
import PassForge.Proofs.Resource.Refusal

/-!
# Copies between textures

A copy puts one whole mip of a texture into a mip of a texture. Both mips have to be there, but their sizes
are not compared: the copy is as large as the mip that it reads.

* `Context.HasImage` is the device texture behind a texture, and `on_textureHandle` says what using a
  texture does.
* `copyTexture_eq_ok`, `copyTexture_eq_error` and `exists_copyTexture_iff` are about the copy itself.
* `Texture.Encloses` says that a copy lies inside a mip. `copy_spec` is the whole statement, and
  `copy_exceeds_target` a copy that is larger than the mip it is put into.
-/

namespace PassForge

open Context (Arrange Touch Retains)
open Relation (ReflTransGen)

variable {c c' : Context} {id source target : ResourceId} {sourceMip targetMip image : Nat}

/-! ## Device textures -/

theorem Work.textureHandle_arranges : Runs Arrange (Work.on .textures id Texture.handle) :=
  Work.on_texture_arranges Texture.handle_attaches

/-- Only the image of a frame can be missing. -/
theorem Texture.exists_handle_iff {l : Live Texture} :
    (∃ image l', Texture.handle l = .ok image l') ↔ ¬l.object.Missing l.device := by
  obtain ⟨image, hi, heq⟩ | ⟨hk, hs, heq⟩ | ⟨hk, -, heq⟩ := handle_cases l
  · have hthere : ¬l.object.Missing l.device := by
      rintro ⟨hk, hs⟩
      rw [image?, if_pos hk, hs] at hi
      cases hi
    exact iff_of_true ⟨_, _, heq⟩ hthere
  · have hfails : ¬∃ image l', Texture.handle l = .ok image l' := by
      rintro ⟨image, l', h⟩
      cases heq.symm.trans h
    exact iff_of_false hfails (not_not_intro ⟨hk, hs⟩)
  · exact iff_of_true ⟨_, _, heq⟩ fun h => hk h.1

namespace Context

/-- The device texture of a texture, which for one of the surface is the image of the frame. -/
def HasImage (c : Context) (id : ResourceId) (image : Nat) : Prop :=
  ∃ t, c.textures.get? id = some t ∧ t.image? c.device = some image

theorem HasImage.later (h : c.HasImage id image) (hc : Retains c c') : c'.HasImage id image := by
  obtain ⟨t, ht, hi⟩ := h
  obtain ⟨t', ht', hbare, hdevice⟩ := Retains.exists_keeps hc.textures hc.deviceTextures ht
  exact ⟨t', ht', Texture.image?_later hbare hc.surface hdevice hi⟩

/-- Whether the image of a frame is missing does not depend on which device objects there are. -/
theorem Retains.exists_missing_iff {t : Texture} (hc : Retains c c')
    (ht : c.textures.get? id = some t) :
    ∃ t', c'.textures.get? id = some t' ∧ (t'.Missing c'.device ↔ t.Missing c.device) := by
  obtain ⟨t', ht', hbare, -⟩ := Retains.exists_keeps hc.textures hc.deviceTextures ht
  refine ⟨t', ht', ?_⟩
  unfold Texture.Missing
  rw [Texture.field_of_bare Texture.kind (fun _ => rfl) hbare, hc.surface]

end Context

/-- Using a texture yields its device texture, and encodes nothing. -/
theorem on_textureHandle (h : Work.on .textures id Texture.handle c = .ok image c') :
    c'.HasImage id image ∧ Retains c c' ∧ c'.device.encoded = c.device.encoded := by
  have htouches : ReflTransGen Touch c c' :=
    (Work.on_texture_touches Texture.handle_uses).of_eq_ok h
  have harranges : ReflTransGen Arrange c c' := Work.textureHandle_arranges.of_eq_ok h
  refine ⟨?_, Context.retains_of_touches htouches, Context.encoded_of_arranges harranges⟩
  obtain ⟨t, l, ht, hl, rfl⟩ := on_eq_ok h
  exact ⟨l.object, @Shelf.get?_put _ .textures _ c id t l ht, (Texture.handle_eq_ok hl).1⟩

theorem exists_on_textureHandle_iff {t : Texture} (ht : c.textures.get? id = some t) :
    (∃ image c', Work.on .textures id Texture.handle c = .ok image c') ↔ ¬t.Missing c.device := by
  rw [← @Texture.exists_handle_iff ⟨t, c.device⟩]
  constructor
  · rintro ⟨image, c', h⟩
    obtain ⟨t', l, ht', hl, -⟩ := on_eq_ok h
    cases ht'.symm.trans ht
    exact ⟨image, l, hl⟩
  · rintro ⟨image, l, hl⟩
    exact ⟨image, _, on_of_ok ht hl⟩

/-! ## The copy -/

/-- A texture of a context, and one of its mips. -/
def Context.HasMip (c : Context) (id : ResourceId) (level : Nat) (t : Texture) : Prop :=
  c.textures.get? id = some t ∧ level < t.mips

/-- A copy of a whole mip into a mip, by their device textures. -/
def Texture.copyOf (s : Texture) (sourceMip image targetMip image' : Nat) : Event :=
  .textureCopied image sourceMip image' targetMip (s.mipExtent sourceMip).1 (s.mipExtent sourceMip).2

theorem Texture.requireMip_eq_ok_iff {t : Texture} {level : Nat} :
    t.requireMip level = .ok () ↔ level < t.mips := by
  unfold requireMip
  split <;> simp <;> omega

section Copy

variable {s t : Texture}

/-- Where both mips are there, both textures are used and the copy is encoded. -/
theorem copyTexture_of_hasMip (hs : c.HasMip source sourceMip s) (ht : c.HasMip target targetMip t) :
    Work.copyTexture source sourceMip target targetMip c =
      (Work.on .textures source Texture.handle >>= fun image =>
        Work.on .textures target Texture.handle >>= fun image' =>
          Work.log (s.copyOf sourceMip image targetMip image')) c := by
  unfold Work.copyTexture
  have hfind : Work.find .textures source c = .ok s c := find_of_some hs.1
  have hfind' : Work.find .textures target c = .ok t c := find_of_some ht.1
  rw [bind_of_ok hfind, bind_of_ok hfind',
    Texture.requireMip_eq_ok_iff.2 hs.2, Texture.requireMip_eq_ok_iff.2 ht.2]
  rfl

/-- Without one of the mips nothing happens at all. -/
theorem copyTexture_cases (c : Context) (source : ResourceId) (sourceMip : Nat) (target : ResourceId)
    (targetMip : Nat) : (∃ s t, c.HasMip source sourceMip s ∧ c.HasMip target targetMip t) ∨
      (¬∃ s t, c.HasMip source sourceMip s ∧ c.HasMip target targetMip t) ∧
        ∃ e, Work.copyTexture source sourceMip target targetMip c = .error e c := by
  by_cases hmips : ∃ s t, c.HasMip source sourceMip s ∧ c.HasMip target targetMip t
  · exact .inl hmips
  refine .inr ⟨hmips, ?_⟩
  unfold Work.copyTexture
  cases hs : c.textures.get? source with
  | none =>
    have hfind : Work.find .textures source c = .error _ c := find_of_none hs
    exact ⟨_, bind_of_error hfind⟩
  | some s =>
    have hfind : Work.find .textures source c = .ok s c := find_of_some hs
    rw [bind_of_ok hfind]
    cases ht : c.textures.get? target with
    | none =>
      have hfind' : Work.find .textures target c = .error _ c := find_of_none ht
      exact ⟨_, bind_of_error hfind'⟩
    | some t =>
      have hfind' : Work.find .textures target c = .ok t c := find_of_some ht
      rw [bind_of_ok hfind']
      by_cases hsource : sourceMip < s.mips
      · have htarget : t.mips ≤ targetMip :=
          Nat.not_lt.1 fun htarget => hmips ⟨s, t, ⟨hs, hsource⟩, ht, htarget⟩
        rw [Texture.requireMip_eq_ok_iff.2 hsource]
        simp only [Texture.requireMip, if_pos htarget]
        exact ⟨_, rfl⟩
      · simp only [Texture.requireMip, if_pos (Nat.not_lt.1 hsource)]
        exact ⟨_, rfl⟩

/-- A copy that succeeds has found both mips, and is the only thing that was encoded. -/
theorem copyTexture_eq_ok (h : Work.copyTexture source sourceMip target targetMip c = .ok () c') :
    ∃ s t image image', c.HasMip source sourceMip s ∧ c.HasMip target targetMip t ∧
      c'.HasImage source image ∧ c'.HasImage target image' ∧
      c'.device.encoded = c.device.encoded ++ [s.copyOf sourceMip image targetMip image'] := by
  obtain ⟨s, t, hs, ht⟩ | ⟨-, e, herror⟩ := copyTexture_cases c source sourceMip target targetMip
  · rw [copyTexture_of_hasMip hs ht] at h
    obtain ⟨image, c₁, himage, h⟩ := bind_eq_ok h
    obtain ⟨image', c₂, himage', h⟩ := bind_eq_ok h
    cases h
    obtain ⟨hi, -, hencoded⟩ := on_textureHandle himage
    obtain ⟨hi', hretains, hencoded'⟩ := on_textureHandle himage'
    have hi₂ : c₂.HasImage source image := hi.later hretains
    refine ⟨s, t, image, image', hs, ht, hi₂, hi', ?_⟩
    rw [← hencoded, ← hencoded']
    exact List.filter_append ..
  · exact nomatch herror.symm.trans h

/-- A copy that fails has encoded nothing. -/
theorem copyTexture_eq_error {e : ResourceError}
    (h : Work.copyTexture source sourceMip target targetMip c = .error e c') :
    c'.device.encoded = c.device.encoded := by
  obtain ⟨s, t, hs, ht⟩ | ⟨-, e', herror⟩ := copyTexture_cases c source sourceMip target targetMip
  · rw [copyTexture_of_hasMip hs ht] at h
    apply Context.encoded_of_arranges
    obtain h | ⟨image, c₁, himage, h⟩ := bind_eq_error h
    · exact Work.textureHandle_arranges.of_eq_error h
    obtain h | ⟨image', c₂, -, h⟩ := bind_eq_error h
    · have hfirst : ReflTransGen Arrange c c₁ := Work.textureHandle_arranges.of_eq_ok himage
      exact hfirst.trans (Work.textureHandle_arranges.of_eq_error h)
    · cases h
  · cases herror.symm.trans h
    rfl

/-- A copy succeeds exactly if both mips are there and no image of a frame is missing. -/
theorem exists_copyTexture_iff :
    (∃ c', Work.copyTexture source sourceMip target targetMip c = .ok () c') ↔
      ∃ s t, c.HasMip source sourceMip s ∧ c.HasMip target targetMip t ∧
        ¬s.Missing c.device ∧ ¬t.Missing c.device := by
  obtain ⟨s, t, hs, ht⟩ | ⟨hnone, e, herror⟩ := copyTexture_cases c source sourceMip target targetMip
  · constructor
    · rintro ⟨c', h⟩
      rw [copyTexture_of_hasMip hs ht] at h
      obtain ⟨image, c₁, himage, h⟩ := bind_eq_ok h
      obtain ⟨image', c₂, himage', -⟩ := bind_eq_ok h
      obtain ⟨t₁, ht₁, hmissing⟩ := (on_textureHandle himage).2.1.exists_missing_iff ht.1
      refine ⟨s, t, hs, ht, (exists_on_textureHandle_iff hs.1).1 ⟨_, _, himage⟩, ?_⟩
      rw [← hmissing]
      exact (exists_on_textureHandle_iff ht₁).1 ⟨_, _, himage'⟩
    · rintro ⟨s, t, hs, ht, hsource, htarget⟩
      obtain ⟨image, c₁, himage⟩ := (exists_on_textureHandle_iff hs.1).2 hsource
      obtain ⟨t₁, ht₁, hmissing⟩ := (on_textureHandle himage).2.1.exists_missing_iff ht.1
      rw [← hmissing] at htarget
      obtain ⟨image', c₂, himage'⟩ := (exists_on_textureHandle_iff ht₁).2 htarget
      rw [copyTexture_of_hasMip hs ht, bind_of_ok himage, bind_of_ok himage']
      exact ⟨_, rfl⟩
  · constructor
    · rintro ⟨c', h⟩
      exact nomatch herror.symm.trans h
    · rintro ⟨s, t, hs, ht, -⟩
      exact absurd ⟨s, t, hs, ht⟩ hnone

end Copy

/-! ## Inside a mip -/

/-- A copy of some width and height lies inside a mip of a texture. -/
structure Texture.Encloses (t : Texture) (level : Nat) (extent : Nat × Nat) : Prop where
  mip : level < t.mips
  width : extent.1 ≤ (t.mipExtent level).1
  height : extent.2 ≤ (t.mipExtent level).2

/-- **Copies between textures.** A copy succeeds exactly if both textures are registered with the mips and
no image of a frame is missing. If it succeeds then it is the one command that was encoded, between the
device textures of the two. It is as large as the mip that it reads and so lies inside that one. It lies
inside the mip that it writes exactly if that is at least as wide and as high, which is not checked; it is
so if the texture is no smaller and the mip no further down. If the copy fails then nothing was encoded. -/
theorem copy_spec (c : Context) (source : ResourceId) (sourceMip : Nat) (target : ResourceId)
    (targetMip : Nat) :
    ((∃ c', Work.copyTexture source sourceMip target targetMip c = .ok () c') ↔
      ∃ s t, c.HasMip source sourceMip s ∧ c.HasMip target targetMip t ∧
        ¬s.Missing c.device ∧ ¬t.Missing c.device) ∧
    (∀ c', Work.copyTexture source sourceMip target targetMip c = .ok () c' →
      ∃ s t, c.textures.get? source = some s ∧ c.textures.get? target = some t ∧
        (∃ image image', c'.HasImage source image ∧ c'.HasImage target image' ∧
          c'.device.encoded = c.device.encoded ++ [s.copyOf sourceMip image targetMip image']) ∧
        s.Encloses sourceMip (s.mipExtent sourceMip) ∧
        (t.Encloses targetMip (s.mipExtent sourceMip) ↔
          (s.mipExtent sourceMip).1 ≤ (t.mipExtent targetMip).1 ∧
            (s.mipExtent sourceMip).2 ≤ (t.mipExtent targetMip).2) ∧
        (s.width ≤ t.width → s.height ≤ t.height → targetMip ≤ sourceMip →
          t.Encloses targetMip (s.mipExtent sourceMip))) ∧
    ∀ e c', Work.copyTexture source sourceMip target targetMip c = .error e c' →
      c'.device.encoded = c.device.encoded := by
  refine ⟨exists_copyTexture_iff, fun c' h => ?_, fun e c' h => copyTexture_eq_error h⟩
  obtain ⟨s, t, image, image', hs, ht, himage, himage', hencoded⟩ := copyTexture_eq_ok h
  refine ⟨s, t, hs.1, ht.1, ⟨image, image', himage, himage', hencoded⟩,
    ⟨hs.2, Nat.le_refl _, Nat.le_refl _⟩, ⟨fun h => ⟨h.width, h.height⟩, fun h => ⟨ht.2, h.1, h.2⟩⟩, ?_⟩
  intro hwidth hheight hmip
  obtain ⟨hw, hh⟩ := Texture.mipExtent_le hwidth hheight hmip
  exact ⟨ht.2, hw, hh⟩

namespace UnequalTextures

/-- Creates a texture, and one that is half as wide and as high. -/
def setup : Work ResourceError Unit := do
  let _ ← Work.createTexture2d { width := 8, height := 8 }
  let _ ← Work.createTexture2d { width := 4, height := 4 }

/-- The context with both. -/
def context : Context := after setup (.start {})

theorem reachable : context.Reachable := by
  refine Context.Reachable.runs ⟨.start {}, .refl⟩ ?_
  exact (Work.createTexture2d_runs _).bind fun _ => (Work.createTexture2d_runs _).bind fun _ =>
    runs_pure ()

end UnequalTextures

/-- A copy of the whole larger texture into the smaller one succeeds, and exceeds it in both directions. -/
theorem copy_exceeds_target : UnequalTextures.context.Reachable ∧ ∃ c' s t image image',
    UnequalTextures.context.textures.get? ⟨1⟩ = some s ∧
    UnequalTextures.context.textures.get? ⟨2⟩ = some t ∧
    Work.copyTexture ⟨1⟩ 0 ⟨2⟩ 0 UnequalTextures.context = .ok () c' ∧
    c'.device.encoded = [.textureCopied image 0 image' 0 8 8] ∧
    t.mipExtent 0 = (4, 4) ∧ ¬t.Encloses 0 (s.mipExtent 0) := by
  have hs : (UnequalTextures.context.textures.get? ⟨1⟩).map (·.mipExtent 0) = some (8, 8) := by cbv
  have ht : (UnequalTextures.context.textures.get? ⟨2⟩).map (·.mipExtent 0) = some (4, 4) := by cbv
  have hcopy : outcome (Work.copyTexture ⟨1⟩ 0 ⟨2⟩ 0) UnequalTextures.context = .ok () := by cbv
  have hencoded : (after (Work.copyTexture ⟨1⟩ 0 ⟨2⟩ 0) UnequalTextures.context).device.encoded =
      [.textureCopied 3 0 4 0 8 8] := by cbv
  obtain ⟨s, hs, hsource⟩ := Option.map_eq_some_iff.1 hs
  obtain ⟨t, ht, htarget⟩ := Option.map_eq_some_iff.1 ht
  refine ⟨UnequalTextures.reachable, _, s, t, 3, 4, hs, ht, eq_ok_of_outcome hcopy, hencoded, htarget,
    fun h => ?_⟩
  have hwidth := h.width
  rw [hsource, htarget] at hwidth
  exact absurd hwidth (by decide)

end PassForge
