import PassForge.Proofs.Context.Durable
import PassForge.Proofs.Resource.TextureCursor

/-!
# Binding a texture again

The views that a texture keeps for bindings stay once they are there. So binding it again, after any
steps of it, gives the same view, unless it is a surface or the storage view of another mip is read.

* `Step.sampledView` and `Step.storageViews`: the step lemmas.
* `InStep` relates two states of a texture whose cursors are at the same mip and move alike.
* `bindView_again`: binding succeeds again. `bindView_sampled_eq` and `bindView_storage_eq`: with the
  same view.
-/

namespace PassForge.Texture

open Relation (ReflTransGen)

variable {l l' m m' : Live Texture} {t t' : Texture} {d d' : Device} {v v' : View}

/-! ## What lasts -/

/-- The view for sampling stays once it is there. -/
theorem Step.sampledView (h : Step l l') (hv : l.object.sampledView = some v) :
    l'.object.sampledView = some v := by
  cases h with
  | use h =>
    cases h with
    | keepSampled _ _ hn => exact nomatch hn.symm.trans hv
    | make | view | keepStorage | sampled | storage | advance => exact hv
  | write | ask | keepTarget | target | point | advance | setAutoAdvance | setHandler => exact hv

/-- The storage views stay once they are there. -/
theorem Step.storageViews {vs : List View} (h : Step l l') (hvs : l.object.storageViews = some vs) :
    l'.object.storageViews = some vs := by
  cases h with
  | use h =>
    cases h with
    | keepStorage _ _ hn => exact nomatch hn.symm.trans hvs
    | make | view | keepSampled | sampled | storage | advance => exact hvs
  | write | ask | keepTarget | target | point | advance | setAutoAdvance | setHandler => exact hvs

/-- What no step changes about a texture still shows is the same of textures with the same of it. -/
theorem field_of_fixed {α : Type} (f : Texture → α) (hf : ∀ t, f t.fixed = f t)
    (h : t'.fixed = t.fixed) : f t' = f t := by
  rw [← hf t', h, hf]

/-- Whether a texture can be bound does not depend on what steps change about it. -/
theorem bindable_of_fixed {storage : Bool} (hb : t'.fixed = t.fixed)
    (hd : d'.surface = d.surface) : t'.bindable d' storage = t.bindable d storage := by
  rw [field_of_fixed (fun t => t.bindable d' storage) (fun t => by cases storage <;> rfl) hb]
  unfold bindable
  rw [hd]

theorem becomes_of_uses (h : ReflTransGen Use l l') : Becomes Step l.object l'.object :=
  Becomes.of_steps (ReflTransGen.mono (fun _ _ => .use) _ _ h)

/-! ## Cursors -/

/-- The cursors of two states of a texture are at the same mip and move alike. -/
structure InStep (t t' : Texture) : Prop where
  cursor : t'.cursor = t.cursor
  autoAdvance : t'.autoAdvance = t.autoAdvance

theorem InStep.cursorAfter {n : Nat} (h : t.InStep t') (hb : t'.fixed = t.fixed) :
    t'.cursorAfter n = t.cursorAfter n := by
  have hmips : t'.mips = t.mips := field_of_fixed Texture.mips (fun _ => rfl) hb
  unfold Texture.cursorAfter
  rw [h.cursor, h.autoAdvance, hmips]

/-- Cursors that move alike still do after both textures have been bound. -/
theorem InStep.bindView {storage : Bool} (h : l.object.InStep m.object)
    (hb : m.object.fixed = l.object.fixed) (hl : l.object.Sound l.device)
    (hm : m.object.Sound m.device) (hbind : bindView storage l = .ok v l')
    (hbind' : Texture.bindView storage m = .ok v' m') : l'.object.InStep m'.object := by
  have hadvanced := bindView_advances hl.cursor hbind
  have hadvanced' := bindView_advances hm.cursor hbind'
  refine ⟨?_, ?_⟩
  · rw [hadvanced.cursor, hadvanced'.cursor, h.cursorAfter hb]
    cases storage <;> rfl
  · rw [field_of_bare Texture.autoAdvance (fun _ => rfl) hadvanced.bare,
      field_of_bare Texture.autoAdvance (fun _ => rfl) hadvanced'.bare, h.autoAdvance]

/-! ## Binding -/

/-- Off the surface, the view that is bound for sampling is the one that the texture keeps. -/
theorem sampledView_of_bindView (hk : l.object.kind ≠ .surface)
    (h : bindView false l = .ok v l') : l'.object.sampledView = some v := by
  obtain ⟨l₁, huse, hview⟩ := bindView_eq_ok h
  have huses : ReflTransGen Use l l₁ := useAsSampled_uses.of_eq_ok huse
  obtain ⟨-, hmode, hkept⟩ := useAsSampled_eq_ok huse
  have hk₁ : l₁.object.kind ≠ .surface := by
    rwa [field_of_bare Texture.kind (fun _ => rfl) (bare_of_uses huses)]
  obtain ⟨v₁, hv₁⟩ := Option.isSome_iff_exists.1 (hkept.resolve_left hk₁)
  rw [view_apply, hmode] at hview
  cases (sampledViewNow_of_some hk₁ hv₁).symm.trans hview
  exact hv₁

/-- The view that is bound with storage access is the one that the texture keeps of the mip at the
cursor. -/
theorem storageViews_of_bindView (hl : l.object.Sound l.device)
    (h : bindView true l = .ok v l') :
    ∃ vs, l'.object.storageViews = some vs ∧ vs[l.object.cursor]? = some v := by
  obtain ⟨vs, v', hvs, hv, heq⟩ := (bindView_advances hl.cursor h).bound 0 (.view v) rfl
  cases heq
  rw [cursorAfter_zero hl.cursor] at hv
  exact ⟨vs, hvs, hv⟩

section Again

variable {storage : Bool} (hl : l.object.Sound l.device) (h : bindView storage l = .ok v l')
  (hbecomes : Becomes Step l'.object m.object)

include h hbecomes

theorem fixed_of_again : m.object.fixed = l.object.fixed := by
  have huses : ReflTransGen Use l l' := (bindView_uses storage).of_eq_ok h
  have hall : Becomes Step l.object m.object := (becomes_of_uses huses).trans hbecomes
  exact hall.eq fun _ _ hl => hl.fixed

include hl

/-- **A texture that was bound can be bound again**, whatever steps it has taken, if the surface is the
same. -/
theorem bindView_again (hm : m.object.Sound m.device) (hs : m.device.surface = l.device.surface) :
    ∃ v' m', bindView storage m = .ok v' m' := by
  have hfixed := fixed_of_again h hbecomes
  obtain ⟨e, l₁, -, herror⟩ | ⟨hok, -⟩ := bindView_spec storage hl
  · exact nomatch herror.symm.trans h
  · obtain ⟨e, m₁, he, -⟩ | ⟨-, v', m', hv', -⟩ := bindView_spec storage hm
    · exact nomatch hok.symm.trans ((bindable_of_fixed hfixed hs).symm.trans he)
    · exact ⟨v', m', hv'⟩

end Again

/-- Bound for sampling again, a texture off the surface gives the same view. -/
theorem bindView_sampled_eq (hk : l.object.kind ≠ .surface) (h : bindView false l = .ok v l')
    (hbecomes : Becomes Step l'.object m.object) (h' : bindView false m = .ok v' m') : v' = v := by
  have hk' : m.object.kind ≠ .surface := by
    rwa [field_of_fixed Texture.kind (fun _ => rfl) (fixed_of_again h hbecomes)]
  have huses : ReflTransGen Use m m' := (bindView_uses false).of_eq_ok h'
  have hall : Becomes Step l'.object m'.object := hbecomes.trans (becomes_of_uses huses)
  have hkept := hall.keeps (P := fun t => t.sampledView = some v) (fun _ _ hl => hl.sampledView)
    (sampledView_of_bindView hk h)
  exact Option.some.inj ((sampledView_of_bindView hk' h').symm.trans hkept)

/-- Bound with storage access again, a texture gives the same view if its cursor is at the same
mip. -/
theorem bindView_storage_eq (hl : l.object.Sound l.device) (h : bindView true l = .ok v l')
    (hbecomes : Becomes Step l'.object m.object) (hm : m.object.Sound m.device)
    (hcursor : m.object.cursor = l.object.cursor) (h' : bindView true m = .ok v' m') : v' = v := by
  obtain ⟨vs, hvs, hv⟩ := storageViews_of_bindView hl h
  obtain ⟨vs', hvs', hv'⟩ := storageViews_of_bindView hm h'
  have huses : ReflTransGen Use m m' := (bindView_uses true).of_eq_ok h'
  have hall : Becomes Step l'.object m'.object := hbecomes.trans (becomes_of_uses huses)
  have hkept := hall.keeps (P := fun t => t.storageViews = some vs)
    (fun _ _ hl => hl.storageViews) hvs
  cases hkept.symm.trans hvs'
  rw [hcursor] at hv'
  exact Option.some.inj (hv'.symm.trans hv)

end PassForge.Texture
