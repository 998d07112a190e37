import PassForge.Proofs.Resource.Admission
import PassForge.Proofs.Resource.CursorCalls

/-!
# The sizes of mips

Each mip is half as wide and half as high as the one before, and never narrower or lower than one texel.
A texture has so few mips that its longer side is cut in half each time.

* `Texture.longSide_eq` is the longer side of a mip in closed form, and `Texture.two_mul_pow_le` says that
  there are at least two texels to it on each mip that a size allows.
* `Texture.Halves` is what follows for the mips of one texture, and `Texture.longSide_last` what the last
  one comes to if there are as many as possible.
* `mipExtent_spec` is the whole statement.
-/

namespace PassForge

open Relation (ReflTransGen)

namespace Texture

variable {t t' : Texture} {i j level width height : Nat}

/-- The longer side of a mip. -/
def longSide (t : Texture) (level : Nat) : Nat := max (t.mipExtent level).1 (t.mipExtent level).2

/-- The next mip has half the width and half the height, but no side below 1. -/
theorem mipExtent_succ (t : Texture) (level : Nat) : t.mipExtent (level + 1) =
    (max ((t.mipExtent level).1 / 2) 1, max ((t.mipExtent level).2 / 2) 1) := by
  simp only [mipExtent, Nat.shiftRight_succ, Prod.mk.injEq]
  omega

theorem one_le_mipExtent (t : Texture) (level : Nat) :
    1 ≤ (t.mipExtent level).1 ∧ 1 ≤ (t.mipExtent level).2 :=
  ⟨Nat.le_max_right .., Nat.le_max_right ..⟩

/-- Neither width nor height is larger on a later mip of a texture that is no larger. -/
theorem mipExtent_le (hw : t.width ≤ t'.width) (hh : t.height ≤ t'.height) (hij : i ≤ j) :
    (t.mipExtent j).1 ≤ (t'.mipExtent i).1 ∧ (t.mipExtent j).2 ≤ (t'.mipExtent i).2 := by
  have hside {n m : Nat} (h : n ≤ m) : n >>> j ≤ m >>> i := by
    rw [Nat.shiftRight_eq_div_pow, Nat.shiftRight_eq_div_pow]
    calc n / 2 ^ j ≤ n / 2 ^ i :=
          Nat.div_le_div_left (Nat.pow_le_pow_right Nat.two_pos hij) (Nat.two_pow_pos _)
      _ ≤ m / 2 ^ i := Nat.div_le_div_right h
  exact ⟨max_le_max_right 1 (hside hw), max_le_max_right 1 (hside hh)⟩

theorem longSide_eq (t : Texture) (level : Nat) :
    t.longSide level = max (max t.width t.height / 2 ^ level) 1 := by
  have hmono : Monotone (· / 2 ^ level) := fun _ _ h => Nat.div_le_div_right h
  have hmax : max t.width t.height / 2 ^ level =
      max (t.width / 2 ^ level) (t.height / 2 ^ level) := hmono.map_max
  simp only [longSide, mipExtent_eq, hmax]
  omega

/-! ## The number of mips -/

theorem maxMipLevels_of_two_le (h : 2 ≤ max width height) :
    1 ≤ (max width height).log2 ∧ maxMipLevels width height = (max width height).log2 := by
  have hlog : 1 ≤ (max width height).log2 := (Nat.le_log2 (by omega)).2 h
  refine ⟨hlog, ?_⟩
  unfold maxMipLevels
  rw [Nat.max_eq_left (by omega : 1 ≤ max width height), Nat.max_eq_left hlog]

/-- A size of one texel allows a single mip. -/
theorem maxMipLevels_of_le_one (h : max width height ≤ 1) : maxMipLevels width height = 1 := by
  unfold maxMipLevels
  rw [Nat.max_eq_right h]
  decide

/-- A mip that a size allows takes no more shifts than leave two texels of the longer side. -/
theorem two_mul_pow_le (h : 2 ≤ max width height) (hlevel : level < maxMipLevels width height) :
    2 * 2 ^ level ≤ max width height := by
  obtain ⟨-, hlog⟩ := maxMipLevels_of_two_le h
  rw [hlog] at hlevel
  have hpow : 2 ^ (level + 1) ≤ max width height := (Nat.le_log2 (by omega)).1 hlevel
  omega

/-- The longer side of a later mip is smaller. -/
theorem longSide_lt_of_lt (hmips : t.mips ≤ maxMipLevels t.width t.height) (hij : i < j)
    (hj : j < t.mips) : t.longSide j < t.longSide i := by
  by_cases hside : 2 ≤ max t.width t.height
  · have htwo : 2 ≤ max t.width t.height / 2 ^ i :=
      (Nat.le_div_iff_mul_le (Nat.two_pow_pos _)).2 (two_mul_pow_le hside (by omega))
    have hhalf : max t.width t.height / 2 ^ j ≤ max t.width t.height / 2 ^ i / 2 := by
      rw [Nat.div_div_eq_div_mul, ← Nat.pow_succ]
      exact Nat.div_le_div_left (Nat.pow_le_pow_right Nat.two_pos hij) (Nat.two_pow_pos _)
    rw [longSide_eq, longSide_eq]
    omega
  · have hone : maxMipLevels t.width t.height = 1 := maxMipLevels_of_le_one (by omega)
    omega

/-- With as many mips as a size allows, two or three texels are left of the longer side. -/
theorem longSide_last (hside : 2 ≤ max t.width t.height)
    (hmips : t.mips = maxMipLevels t.width t.height) :
    t.longSide (t.mips - 1) = 2 ∨ t.longSide (t.mips - 1) = 3 := by
  obtain ⟨hone, hlog⟩ := maxMipLevels_of_two_le hside
  obtain ⟨k, hk⟩ : ∃ k, t.mips = k + 1 := ⟨t.mips - 1, by omega⟩
  have hlow : 2 ≤ max t.width t.height / 2 ^ k :=
    (Nat.le_div_iff_mul_le (Nat.two_pow_pos _)).2 (two_mul_pow_le hside (by omega))
  have hhigh : max t.width t.height / 2 ^ k < 4 := by
    have hlt : max t.width t.height < 2 ^ ((max t.width t.height).log2 + 1) := Nat.lt_log2_self
    rw [← hlog, ← hmips, hk] at hlt
    exact (Nat.div_lt_iff_lt_mul (Nat.two_pow_pos _)).2 (by omega)
  rw [hk, Nat.add_sub_cancel, longSide_eq]
  omega

/-! ## The mips of a texture -/

/-- The mips of a texture: each is half of the one before, none is empty, and the longer side gets
smaller. -/
structure Halves (t : Texture) : Prop where
  half : ∀ level, t.mipExtent (level + 1) =
    (max ((t.mipExtent level).1 / 2) 1, max ((t.mipExtent level).2 / 2) 1)
  nonempty : ∀ level, 1 ≤ (t.mipExtent level).1 ∧ 1 ≤ (t.mipExtent level).2
  shrinks : ∀ i j, i < j → j < t.mips → t.longSide j < t.longSide i

theorem Admitted.halves {limits : Limits} (h : t.Admitted limits) : t.Halves where
  half := t.mipExtent_succ
  nonempty := t.one_le_mipExtent
  shrinks _ _ hij hj := longSide_lt_of_lt h.mips.2 hij hj

/-- On a device whose limits are of 32 bits, no mip takes 32 shifts. -/
theorem Admitted.level_lt {limits : Limits} (h : t.Admitted limits)
    (hlimits : limits.maxTextureDimension < UInt32.size) (hlevel : level < t.mips) : level < 32 := by
  have hmax : maxMipLevels t.width t.height < 32 :=
    maxMipLevels_lt (Nat.lt_of_le_of_lt h.width.2 hlimits) (Nat.lt_of_le_of_lt h.height.2 hlimits)
  have hmips := h.mips.2
  omega

end Texture

/-- **The sizes of mips.** In a context that operations lead to:

* On each texture but those of the surface, a mip is half of the one before in each direction but no
  side is empty, and the longer side gets smaller with each mip. None of its mips takes 32 shifts if the
  limits of the device are of 32 bits.
* A colour texture that is not multisampled, is larger than one texel and is created without a number of
  mips has a last mip whose longer side is 2 or 3, whatever comes next. -/
theorem mipExtent_spec {c : Context} (hc : c.Reachable) :
    (∀ id t, c.textures.get? id = some t → t.kind ≠ .surface → t.Halves ∧
      (c.device.limits.maxTextureDimension < UInt32.size → ∀ level < t.mips, level < 32)) ∧
    ∀ (k : Creation) (kind : TextureKind) (layers : Nat) (desc : TextureDesc),
      k.AsksTexture kind layers desc → desc.mips = none → desc.samples ≤ 1 →
      (desc.format.getD c.device.surfaceFormat).isDepthStencil = false →
      2 ≤ max desc.width desc.height →
      ∀ id c₁, k.run c = .ok id c₁ → id ∉ c.ids .textures →
      ∀ c₂, ReflTransGen Context.Step c₁ c₂ → ∃ t, c₂.textures.get? id = some t ∧
        (t.longSide (t.mips - 1) = 2 ∨ t.longSide (t.mips - 1) = 3) := by
  refine ⟨fun id t ht hk => ?_, fun k kind layers desc hk hmips hsamples hcolor hside id c₁ hrun
    hvacant c₂ hsteps => ?_⟩
  · have hadmitted := hc.admitsTextures id t ht hk
    exact ⟨hadmitted.halves, fun hlimits level hlevel => hadmitted.level_lt hlimits hlevel⟩
  · obtain ⟨t, ht, -, hsettled⟩ := hk.exists_made hrun hvacant
    have hc₁ : c₁.Reachable := by
      rw [← after_ok hrun]
      exact hc.runs hk.runs
    have hcount : t.mips = maxMipLevels t.width t.height := by
      rw [hsettled.mips, hsettled.width, hsettled.height, hsettled.format, Texture.settledMips, hcolor,
        hmips, if_neg (by simp; omega), Option.getD_none]
      exact Nat.max_eq_left (Nat.le_max_right ..)
    rw [← hsettled.width, ← hsettled.height] at hside
    obtain ⟨t₂, ht₂, hfixed⟩ := (Context.lasting_of_steps hc₁ hsteps).fixedTexture ht
    have hmips₂ : t₂.mips = t.mips := (congrArg Texture.mips hfixed :)
    have hsides : t₂.longSide = t.longSide := (congrArg Texture.longSide hfixed :)
    refine ⟨t₂, ht₂, ?_⟩
    rw [hsides, hmips₂]
    exact Texture.longSide_last hside hcount

namespace OblongTexture

/-- A texture that is one texel high long before it is one texel wide. -/
def desc : TextureDesc where
  width := 20
  height := 3
  format := some .rgba8Unorm

/-- The call that creates it. -/
def created : Creation := .texture2d desc

end OblongTexture

/-- The oblong texture has four mips, which end with one of two texels. -/
theorem mipExtent_oblongTexture : (Context.start {}).Reachable ∧
    OblongTexture.created.AsksTexture .d2 1 OblongTexture.desc ∧
    ∃ c' t, OblongTexture.created.run (.start {}) = .ok ⟨1⟩ c' ∧ c'.textures.get? ⟨1⟩ = some t ∧
      t.mips = 4 ∧ t.mipExtent 3 = (2, 1) ∧ t.Halves ∧
      (t.longSide 3 = 2 ∨ t.longSide 3 = 3) := by
  have hc : (Context.start {}).Reachable := ⟨.start {}, .refl⟩
  have hasks : OblongTexture.created.AsksTexture .d2 1 OblongTexture.desc := .texture2d
  have hrun := eq_ok_of_outcome
    (by decide +kernel : outcome OblongTexture.created.run (.start {}) = .ok ⟨1⟩)
  have htexture : ((after OblongTexture.created.run (.start {})).textures.get? ⟨1⟩).map
      (fun t => (t.kind, t.mips, t.mipExtent 3)) = some (.d2, 4, (2, 1)) := by cbv
  obtain ⟨t, ht, heq⟩ := Option.map_eq_some_iff.1 htexture
  simp only [Prod.mk.injEq] at heq
  obtain ⟨hkind, hmips, hextent⟩ := heq
  have hc' : (after OblongTexture.created.run (.start {})).Reachable := hc.runs hasks.runs
  obtain ⟨hhalves, -⟩ := (mipExtent_spec hc').1 ⟨1⟩ t ht (hkind ▸ by decide)
  have hvacant : ⟨1⟩ ∉ (Context.start {}).ids .textures := by
    intro h
    cases h
  obtain ⟨t', ht', hlast⟩ := (mipExtent_spec hc).2 _ _ _ _ hasks rfl (by decide) (by decide)
    (by decide) ⟨1⟩ _ hrun hvacant _ .refl
  cases ht.symm.trans ht'
  rw [hmips] at hlast
  exact ⟨hc, hasks, _, t, hrun, ht, hmips, hextent, hhalves, hlast⟩

end PassForge
