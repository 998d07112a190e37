import PassForge.Device.BindGroup
import PassForge.Proofs.Resource.TextureViews

/-!
# What binding does to the cursor

With auto-advance on, each storage view that is read for a binding is that of the next mip, and after
the last mip the first is next. Nothing else that binding or recording does moves the cursor.

* `Advanced` relates a texture to what reading storage views for some bindings leaves of it;
  `Advanced.trans` goes along a sequence of bindings.
* `bindView_advances`: binding a texture once, with storage access or without.
-/

namespace PassForge.Texture

open Relation (ReflTransGen)

variable {l l' : Live Texture} {t t' t'' : Texture} {v : View} {m n : Nat}

/-- Where the cursor points after some reads of the storage view. -/
def cursorAfter (t : Texture) (n : Nat) : Nat :=
  if t.autoAdvance then (t.cursor + n) % t.mips else t.cursor

theorem cursorAfter_zero (h : t.cursor < t.mips) : t.cursorAfter 0 = t.cursor := by
  unfold cursorAfter
  rw [Nat.add_zero, Nat.mod_eq_of_lt h, ite_self]

/-- Reads after reads are reads. -/
theorem cursorAfter_add (hb : t'.bare = t.bare) (hc : t'.cursor = t.cursorAfter m) :
    t'.cursorAfter n = t.cursorAfter (m + n) := by
  unfold cursorAfter at hc ⊢
  rw [hc, field_of_bare autoAdvance (fun _ => rfl) hb, field_of_bare mips (fun _ => rfl) hb]
  split
  · rw [Nat.mod_add_mod, Nat.add_assoc]
  · rfl

/-- A texture and what is left of it after storage views have been read: they are the views that it
keeps of the mips that its cursor went over, in that order. -/
structure Advanced (t t' : Texture) (bound : List BoundResource) : Prop where
  bare : t'.bare = t.bare
  cursor : t'.cursor = t.cursorAfter bound.length
  views : ∀ vs, t.storageViews = some vs → t'.storageViews = some vs
  bound : ∀ i r, bound[i]? = some r → ∃ vs v, t'.storageViews = some vs ∧
    vs[t.cursorAfter i]? = some v ∧ r = .view v

namespace Advanced

variable {bound bound' : List BoundResource}

/-- Nothing has been read. -/
theorem same (h : t.cursor < t.mips) (hb : t'.bare = t.bare) (hc : t'.cursor = t.cursor)
    (hv : t'.storageViews = t.storageViews) : t.Advanced t' [] where
  bare := hb
  cursor := hc.trans (cursorAfter_zero h).symm
  views _ hvs := hv.trans hvs
  bound _ _ hr := (nomatch hr)

theorem refl (h : t.cursor < t.mips) : t.Advanced t [] := same h rfl rfl rfl

theorem trans (h : t.Advanced t' bound) (h' : t'.Advanced t'' bound') :
    t.Advanced t'' (bound ++ bound') where
  bare := h'.bare.trans h.bare
  cursor := by rw [h'.cursor, cursorAfter_add h.bare h.cursor, List.length_append]
  views vs hvs := h'.views vs (h.views vs hvs)
  bound i r hr := by
    by_cases hi : i < bound.length
    · rw [List.getElem?_append_left hi] at hr
      obtain ⟨vs, v, hvs, hv, rfl⟩ := h.bound i r hr
      exact ⟨vs, v, h'.views vs hvs, hv, rfl⟩
    · rw [List.getElem?_append_right (Nat.le_of_not_lt hi)] at hr
      obtain ⟨vs, v, hvs, hv, rfl⟩ := h'.bound _ r hr
      rw [cursorAfter_add h.bare h.cursor, Nat.add_sub_cancel' (Nat.le_of_not_lt hi)] at hv
      exact ⟨vs, v, hvs, hv, rfl⟩

end Advanced

/-! ## Binding -/

theorem handle_storage {image : Nat} (h : handle l = .ok image l') :
    l'.object.cursor = l.object.cursor ∧ l'.object.storageViews = l.object.storageViews := by
  obtain ⟨-, rfl | ⟨-, -, rfl⟩⟩ := handle_eq_ok h <;> exact ⟨rfl, rfl⟩

/-- Selecting storage access leaves the cursor and the storage views that are there. -/
theorem useAsStorage_storage (h : useAsStorage l = .ok () l') :
    l'.object.cursor = l.object.cursor ∧
      ∀ vs, l.object.storageViews = some vs → l'.object.storageViews = some vs := by
  obtain ⟨-, heq⟩ | ⟨-, ⟨-, heq⟩ | ⟨-, -, heq⟩ | ⟨hn, image, l₁, hl, heq⟩⟩ := useAsStorage_cases l
  all_goals rw [heq] at h; cases h
  · exact ⟨rfl, fun _ hvs => hvs⟩
  · exact ⟨(handle_storage hl).1, fun vs hvs => nomatch hn.symm.trans hvs⟩

/-- Selecting sampling leaves the cursor and the storage views. -/
theorem useAsSampled_storage (h : useAsSampled l = .ok () l') :
    l'.object.cursor = l.object.cursor ∧ l'.object.storageViews = l.object.storageViews := by
  obtain ⟨-, heq⟩ | ⟨-, ⟨-, heq⟩ | ⟨-, -, image, l₁, hl, heq⟩⟩ := useAsSampled_cases l
  all_goals rw [heq] at h; cases h
  · exact ⟨rfl, rfl⟩
  · obtain ⟨hcursor, hviews⟩ := handle_storage hl
    exact ⟨hcursor, hviews⟩

/-- Reading the view for sampling leaves the cursor and the storage views. -/
theorem sampledViewNow_storage (h : sampledViewNow l = .ok v l') :
    l'.object.cursor = l.object.cursor ∧ l'.object.storageViews = l.object.storageViews := by
  by_cases hk : l.object.kind = .surface
  · rw [sampledViewNow_of_surface hk] at h
    cases hl : handle l with
    | error e l₁ => exact nomatch (makeView_of_error hl).symm.trans h
    | ok image l₁ =>
      cases (makeView_of_ok hl).symm.trans h
      obtain ⟨hcursor, hviews⟩ := handle_storage hl
      exact ⟨hcursor, hviews⟩
  · unfold sampledViewNow at h
    rw [Action.object_bind, if_neg hk] at h
    cases hv : l.object.sampledView with
    | none =>
      rw [hv] at h
      cases h
    | some v' =>
      rw [hv] at h
      cases h
      exact ⟨rfl, rfl⟩

/-- Reading the storage view gives the kept view of the mip at the cursor. -/
theorem storageView_eq_ok (h : storageView l = .ok v l') :
    l' = advanced l ∧ ∃ vs, l.object.storageViews = some vs ∧ vs[l.object.cursor]? = some v := by
  rw [storageView_apply] at h
  cases hvs : l.object.storageViews with
  | none =>
    rw [hvs] at h
    cases h
  | some vs =>
    rw [hvs, Option.getD_some] at h
    cases hv : vs[l.object.cursor]? with
    | none =>
      rw [hv] at h
      cases h
    | some v' =>
      rw [hv] at h
      cases h
      exact ⟨rfl, vs, rfl, hv⟩

theorem advanced_advances (hc : l.object.cursor < l.object.mips) {vs : List View}
    (hvs : l.object.storageViews = some vs) (hv : vs[l.object.cursor]? = some v) :
    l.object.Advanced (advanced l).object [.view v] where
  bare := by
    unfold advanced
    split <;> rfl
  cursor := by
    unfold advanced cursorAfter
    split <;> rfl
  views vs hvs := by
    unfold advanced
    split <;> exact hvs
  bound i r hr := by
    obtain ⟨rfl, rfl⟩ : i = 0 ∧ .view v = r := by
      cases i with
      | zero => exact ⟨rfl, Option.some.inj hr⟩
      | succ i => cases hr
    refine ⟨vs, v, ?_, ?_, rfl⟩
    · unfold advanced
      split <;> exact hvs
    · rwa [cursorAfter_zero hc]

theorem bindView_eq_ok {storage : Bool} (h : bindView storage l = .ok v l') :
    ∃ l₁, (if storage then useAsStorage else useAsSampled) l = .ok () l₁ ∧ view l₁ = .ok v l' := by
  cases storage
  all_goals
    obtain ⟨_, l₁, huse, hview⟩ := bind_eq_ok h
    exact ⟨l₁, huse, hview⟩

/-- **Binding a texture with storage access reads the view of the mip at the cursor, and binding it
for sampling leaves the cursor.** -/
theorem bindView_advances {storage : Bool} (hc : l.object.cursor < l.object.mips)
    (h : bindView storage l = .ok v l') :
    l.object.Advanced l'.object (if storage then [.view v] else []) := by
  cases storage with
  | true =>
    obtain ⟨l₁, huse, hview⟩ := bindView_eq_ok h
    have huses : ReflTransGen Use l l₁ := useAsStorage_uses.of_eq_ok huse
    have hbare := bare_of_uses huses
    obtain ⟨hcursor, hviews⟩ := useAsStorage_storage huse
    rw [view_apply, (useAsStorage_eq_ok huse).2.1] at hview
    obtain ⟨rfl, vs, hvs, hv⟩ := storageView_eq_ok hview
    have hc₁ : l₁.object.cursor < l₁.object.mips := by
      rwa [hcursor, field_of_bare mips (fun _ => rfl) hbare]
    have hselect : l.object.Advanced l₁.object [] :=
      ⟨hbare, hcursor.trans (cursorAfter_zero hc).symm, hviews, fun _ _ hr => (nomatch hr)⟩
    exact hselect.trans (advanced_advances hc₁ hvs hv)
  | false =>
    have huses : ReflTransGen Use l l' := (bindView_uses false).of_eq_ok h
    obtain ⟨l₁, huse, hview⟩ := bindView_eq_ok h
    rw [view_apply, (useAsSampled_eq_ok huse).2.1] at hview
    obtain ⟨hcursor, hviews⟩ := useAsSampled_storage huse
    obtain ⟨hcursor', hviews'⟩ := sampledViewNow_storage hview
    exact .same hc (bare_of_uses huses) (hcursor'.trans hcursor) (hviews'.trans hviews)

/-! ## Recording -/

theorem Refresh.cursor {p : SyncPoint} (h : Refresh p l l') :
    l'.object.cursor = l.object.cursor :=
  (congrArg Texture.cursor h.idle : l'.object.idle.cursor = l.object.idle.cursor)

theorem Attach.cursor (h : Attach l l') : l'.object.cursor = l.object.cursor := by
  cases h <;> rfl

theorem Attach.autoAdvance (h : Attach l l') : l'.object.autoAdvance = l.object.autoAdvance := by
  cases h <;> rfl

end PassForge.Texture
