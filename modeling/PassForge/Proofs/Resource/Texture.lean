import PassForge.Proofs.Device
import PassForge.Proofs.Run
import PassForge.Resource.MipViews

/-!
# What happens to textures

`Texture.Step` lists every change that an action makes to a texture and its device. Those that
binding a texture may make are a relation of their own, `Texture.Use`, and so are those of bringing
it up to date, `Texture.Refresh`, and of rendering into it, `Texture.Attach`.

* `handle_cases`: the device texture is there, is made now, or is an image that the surface lacks.
* `useAsTarget_runs`, `acquire_runs` and the like: each action takes such steps and no others.
-/

namespace PassForge.Texture

open Relation (ReflTransGen)

variable {l l' : Live Texture} {t : Texture} {d : Device} {image : Nat}

/-! ## Steps -/

/-- The serial of the device texture behind a texture, if there is one at the moment. -/
def image? (t : Texture) (d : Device) : Option Nat :=
  if t.kind = .surface then d.surface.map SurfaceImage.texture else t.device

/-- A texture and its device after the first use of the texture. -/
def made (l : Live Texture) : Live Texture where
  object := { l.object with device := some l.device.nextSerial, contents := [] }
  device :=
    let d := (l.device.createTexture l.object.request).2
    if l.object.format.isDepthStencil then d
    else l.object.contents.zipIdx.foldl (fun d p =>
      d.log (.textureWritten l.device.nextSerial (l.object.levelWrite p.2 0 p.1))) d

/-- The ranges of the storage views of a texture, by mip. -/
def storageRanges (t : Texture) : List ViewRange := (List.range t.mips).map t.storageRange

/-- A texture that keeps the view for sampling that its device makes of a device texture. -/
def keepSampled (image : Nat) (l : Live Texture) : Live Texture :=
  let made := l.device.createView l.object.label image l.object.sampledRange
  ⟨{ l.object with sampledView := some made.1 }, made.2⟩

/-- A texture that keeps the storage views that its device makes of a device texture. -/
def keepStorage (image : Nat) (l : Live Texture) : Live Texture :=
  let made := l.device.createViews l.object.label image l.object.storageRanges
  ⟨{ l.object with storageViews := some made.1 }, made.2⟩

/-- A texture that keeps the view for rendering into a layer that its device makes of a device
texture. -/
def keepTarget (image layer : Nat) (l : Live Texture) : Live Texture :=
  let made := l.device.createView l.object.label image (l.object.targetRange layer)
  ⟨{ l.object with targetViews := l.object.targetViews ++ [(layer, made.1)] }, made.2⟩

/-- A change that binding a texture makes. -/
inductive Use : Live Texture → Live Texture → Prop
  | make {l : Live Texture} (hk : l.object.kind ≠ .surface) (h : l.object.device = none) :
      Use l (made l)
  | view {l : Live Texture} {image : Nat} (range : ViewRange)
      (h : l.object.image? l.device = some image) :
      Use l { l with device := (l.device.createView l.object.label image range).2 }
  | keepSampled {l : Live Texture} {image : Nat} (hk : l.object.kind ≠ .surface)
      (h : l.object.image? l.device = some image) (hn : l.object.sampledView = none) :
      Use l (keepSampled image l)
  | keepStorage {l : Live Texture} {image : Nat}
      (hu : l.object.usage.contains { storageBinding := true })
      (h : l.object.image? l.device = some image) (hn : l.object.storageViews = none) :
      Use l (keepStorage image l)
  | sampled {l : Live Texture} (hu : l.object.usage.contains { textureBinding := true })
      (hv : l.object.kind = .surface ∨ l.object.sampledView.isSome) :
      Use l { l with object := { l.object with mode := .sampled } }
  | storage {l : Live Texture} (hu : l.object.usage.contains { storageBinding := true })
      (hv : l.object.storageViews.isSome) :
      Use l { l with object := { l.object with mode := .storage } }
  | advance {l : Live Texture} (ha : l.object.autoAdvance) :
      Use l { l with object := l.object.advanceCursor }

/-- A change of a texture and its device. -/
inductive Step : Live Texture → Live Texture → Prop
  | use {l l' : Live Texture} (h : Use l l') : Step l l'
  | write {l : Live Texture} {image : Nat} {w : TextureWrite}
      (h : l.object.image? l.device = some image) (hl : w.layer < l.object.layers)
      (hm : w.mip < l.object.mips) :
      Step l ⟨l.object,
        l.device.log (.textureWritten image (l.object.levelWrite w.layer w.mip w.data))⟩
  | ask {l : Live Texture} {h : Handler TextureWrite} (p : SyncPoint)
      (ht : l.object.handler = some h) :
      Step l ⟨{ l.object with handler := some (h.called p) },
        l.device.log (.handlerCalled p (h.callsAt p))⟩
  | keepTarget {l : Live Texture} {image layer : Nat} (hk : l.object.kind ≠ .surface)
      (hl : layer < l.object.layers) (h : l.object.image? l.device = some image)
      (hn : l.object.targetViews.lookup layer = none) : Step l (keepTarget image layer l)
  | target {l : Live Texture} {layer : Nat}
      (hu : l.object.usage.contains { renderAttachment := true }) (hl : layer < l.object.layers)
      (hv : l.object.kind = .surface ∨ (l.object.targetViews.lookup layer).isSome) :
      Step l { l with object := { l.object with mode := .target, targetLayer := layer } }
  | point {l : Live Texture} (level : Nat) :
      Step l { l with object := l.object.pointCursor level }
  | advance {l : Live Texture} : Step l { l with object := l.object.advanceCursor }
  | setAutoAdvance {l : Live Texture} (enabled : Bool) :
      Step l { l with object := l.object.setAutoAdvance enabled }
  | setHandler {l : Live Texture} (h : Handler TextureWrite) :
      Step l { l with object := l.object.setHandler h }

/-- A change that bringing a texture up to date for one point of a pass makes. -/
inductive Refresh (p : SyncPoint) : Live Texture → Live Texture → Prop
  | make {l : Live Texture} (hk : l.object.kind ≠ .surface) (h : l.object.device = none) :
      Refresh p l (made l)
  | write {l : Live Texture} {image : Nat} {w : TextureWrite}
      (h : l.object.image? l.device = some image) (hl : w.layer < l.object.layers)
      (hm : w.mip < l.object.mips) :
      Refresh p l ⟨l.object,
        l.device.log (.textureWritten image (l.object.levelWrite w.layer w.mip w.data))⟩
  | ask {l : Live Texture} {h : Handler TextureWrite} (ht : l.object.handler = some h) :
      Refresh p l ⟨{ l.object with handler := some (h.called p) },
        l.device.log (.handlerCalled p (h.callsAt p))⟩

theorem Refresh.step {p : SyncPoint} (h : Refresh p l l') : Step l l' := by
  cases h with
  | make hk h => exact .use (.make hk h)
  | write h hl hm => exact .write h hl hm
  | ask ht => exact .ask p ht

/-- A change that rendering into a texture makes. -/
inductive Attach : Live Texture → Live Texture → Prop
  | make {l : Live Texture} (hk : l.object.kind ≠ .surface) (h : l.object.device = none) :
      Attach l (made l)
  | keep {l : Live Texture} {image layer : Nat} (hk : l.object.kind ≠ .surface)
      (hl : layer < l.object.layers) (h : l.object.image? l.device = some image)
      (hn : l.object.targetViews.lookup layer = none) : Attach l (keepTarget image layer l)
  | select {l : Live Texture} {layer : Nat}
      (hu : l.object.usage.contains { renderAttachment := true }) (hl : layer < l.object.layers)
      (hv : l.object.kind = .surface ∨ (l.object.targetViews.lookup layer).isSome) :
      Attach l { l with object := { l.object with mode := .target, targetLayer := layer } }

theorem Attach.step (h : Attach l l') : Step l l' := by
  cases h with
  | make hk h => exact .use (.make hk h)
  | keep hk hl h hn => exact .keepTarget hk hl h hn
  | select hu hl hv => exact .target hu hl hv

/-! ## The device texture -/

theorem handle_of_surface {s : SurfaceImage} (hk : l.object.kind = .surface)
    (hs : l.device.surface = some s) : handle l = .ok s.texture l := by
  unfold handle
  rw [Action.object_bind, if_pos hk]
  unfold Action.surface
  exact (@bind_of_ok _ _ _ _ _ _ l l s (by rw [hs])).trans rfl

theorem handle_of_noSurface (hk : l.object.kind = .surface) (hs : l.device.surface = none) :
    handle l = .error .surfaceUnavailable l := by
  unfold handle
  rw [Action.object_bind, if_pos hk]
  unfold Action.surface
  exact bind_of_error (by rw [hs])

theorem handle_of_some (hk : l.object.kind ≠ .surface) (h : l.object.device = some image) :
    handle l = .ok image l := by
  unfold handle
  rw [Action.object_bind, if_neg hk, h]
  rfl

theorem handle_of_none (hk : l.object.kind ≠ .surface) (h : l.object.device = none) :
    handle l = .ok l.device.nextSerial (made l) := by
  unfold handle made
  rw [Action.object_bind, if_neg hk, h]
  show (Action.call (Device.createTexture l.object.request) >>= _) l = _
  rw [Action.call_bind]
  cases l.object.format.isDepthStencil with
  | true => rfl
  | false => exact (bind_of_ok (forM_log _ _)).trans rfl

theorem image?_made (hk : l.object.kind ≠ .surface) :
    (made l).object.image? (made l).device = some l.device.nextSerial := if_neg hk

/-- The device texture is there already, is an image that the surface lacks, or is made now. -/
theorem handle_cases (l : Live Texture) :
    (∃ image, l.object.image? l.device = some image ∧ handle l = .ok image l) ∨
      (l.object.kind = .surface ∧ l.device.surface = none ∧
        handle l = .error .surfaceUnavailable l) ∨
      l.object.kind ≠ .surface ∧ l.object.device = none ∧
        handle l = .ok l.device.nextSerial (made l) := by
  by_cases hk : l.object.kind = .surface
  · cases hs : l.device.surface with
    | none => exact .inr (.inl ⟨hk, rfl, handle_of_noSurface hk hs⟩)
    | some s =>
      refine .inl ⟨s.texture, ?_, handle_of_surface hk hs⟩
      rw [image?, if_pos hk, hs]
      rfl
  · cases hd : l.object.device with
    | none => exact .inr (.inr ⟨hk, rfl, handle_of_none hk hd⟩)
    | some image => exact .inl ⟨image, (if_neg hk).trans hd, handle_of_some hk hd⟩

/-- What every use of a texture yields is its device texture. -/
theorem handle_eq_ok (h : handle l = .ok image l') :
    l'.object.image? l'.device = some image ∧
      (l' = l ∨ l.object.kind ≠ .surface ∧ l.object.device = none ∧ l' = made l) := by
  obtain ⟨s, hs, heq⟩ | ⟨-, -, heq⟩ | ⟨hk, hd, heq⟩ := handle_cases l
  · rw [heq] at h
    cases h
    exact ⟨hs, .inl rfl⟩
  · rw [heq] at h
    cases h
  · rw [heq] at h
    cases h
    exact ⟨image?_made hk, .inr ⟨hk, hd, rfl⟩⟩

/-- On a texture that no surface stands behind the first use does not fail. -/
theorem exists_handle_eq_ok (hk : l.object.kind ≠ .surface) :
    ∃ image l', handle l = .ok image l' := by
  cases hd : l.object.device with
  | none => exact ⟨_, _, handle_of_none hk hd⟩
  | some image => exact ⟨_, _, handle_of_some hk hd⟩

/-- Asking for the device texture makes it or changes nothing. -/
theorem handle_runs_of {R : Live Texture → Live Texture → Prop}
    (hmake : ∀ l, l.object.kind ≠ .surface → l.object.device = none → R l (made l)) :
    Runs R handle := fun l => by
  obtain ⟨s, -, heq⟩ | ⟨-, -, heq⟩ | ⟨hk, hd, heq⟩ := handle_cases l
  · exact .of_after (after_ok heq) .refl
  · exact .of_after (after_error heq) .refl
  · exact .of_after (after_ok heq) (.single (hmake l hk hd))

theorem handle_uses : Runs Use handle := handle_runs_of fun _ => .make

theorem handle_refreshes (p : SyncPoint) : Runs (Refresh p) handle := handle_runs_of fun _ => .make

theorem handle_attaches : Runs Attach handle := handle_runs_of fun _ => .make

/-! ## Selecting a mode -/

section Parts

variable {α : Type} {l₁ : Live Texture}

theorem requireUsage_bind {usage : TextureUsage} {f : Unit → Action Texture α} :
    (requireUsage usage >>= f) l = if l.object.usage.contains usage then f () l
      else .error (.usageNotSupported l.object.id usage) l := by
  unfold requireUsage
  rw [bind_assoc, Action.object_bind]
  cases l.object.usage.contains usage <;> rfl

theorem makeView_of_ok {range : ViewRange} (h : handle l = .ok image l₁) :
    makeView range l = .ok (l₁.device.createView l₁.object.label image range).1
      { l₁ with device := (l₁.device.createView l₁.object.label image range).2 } := by
  unfold makeView
  rw [Action.object_bind, bind_of_ok h]
  obtain ⟨-, rfl | ⟨-, -, rfl⟩⟩ := handle_eq_ok h <;> rfl

theorem makeView_of_error {range : ViewRange} {e : ResourceError} (h : handle l = .error e l₁) :
    makeView range l = .error e l₁ := by
  unfold makeView
  rw [Action.object_bind, bind_of_error h]

theorem mapM_createView (label : Option String) (range : α → ViewRange) (as : List α) :
    (as.mapM fun a => Action.call (Device.createView label image (range a)) :
      Action Texture (List View)) l =
      .ok (l.device.createViews label image (as.map range)).1
        { l with device := (l.device.createViews label image (as.map range)).2 } := by
  induction as generalizing l with
  | nil => rfl
  | cons a as ih =>
    rw [List.mapM_cons, Action.call_bind, bind_of_ok ih]
    rfl

end Parts

/-- Sampling fails without its usage; otherwise the view is there or is made now. -/
theorem useAsSampled_cases (l : Live Texture) :
    (l.object.usage.contains { textureBinding := true } = false ∧
      useAsSampled l = .error (.usageNotSupported l.object.id { textureBinding := true }) l) ∨
    l.object.usage.contains { textureBinding := true } ∧
      ((l.object.kind = .surface ∨ l.object.sampledView.isSome) ∧
        useAsSampled l = .ok () { l with object := { l.object with mode := .sampled } } ∨
      l.object.kind ≠ .surface ∧ l.object.sampledView = none ∧ ∃ image l₁,
        handle l = .ok image l₁ ∧ useAsSampled l = .ok () { keepSampled image l₁ with
          object := { (keepSampled image l₁).object with mode := .sampled } }) := by
  unfold useAsSampled
  rw [requireUsage_bind]
  cases hu : l.object.usage.contains { textureBinding := true } with
  | false => exact .inl ⟨rfl, rfl⟩
  | true =>
    refine .inr ⟨rfl, ?_⟩
    rw [if_pos rfl, Action.object_bind]
    by_cases hk : l.object.kind = .surface
    · refine .inl ⟨.inl hk, ?_⟩
      rw [if_neg fun hc => hc.1 hk]
      rfl
    · cases hs : l.object.sampledView with
      | some v =>
        refine .inl ⟨.inr rfl, ?_⟩
        rw [if_neg fun hc => Bool.false_ne_true hc.2]
        rfl
      | none =>
        obtain ⟨image, l₁, h⟩ := exists_handle_eq_ok hk
        refine .inr ⟨hk, rfl, image, l₁, h, ?_⟩
        rw [if_pos ⟨hk, rfl⟩, bind_of_ok (makeView_of_ok h)]
        obtain ⟨-, rfl | ⟨-, -, rfl⟩⟩ := handle_eq_ok h <;> rfl

/-- Storage access fails without its usage, or if the surface lacks its image; otherwise the views
are there or are made now. -/
theorem useAsStorage_cases (l : Live Texture) :
    (l.object.usage.contains { storageBinding := true } = false ∧
      useAsStorage l = .error (.usageNotSupported l.object.id { storageBinding := true }) l) ∨
    l.object.usage.contains { storageBinding := true } ∧
      (l.object.storageViews.isSome ∧
        useAsStorage l = .ok () { l with object := { l.object with mode := .storage } } ∨
      l.object.storageViews = none ∧ l.object.kind = .surface ∧
        useAsStorage l = .error .surfaceUnavailable l ∨
      l.object.storageViews = none ∧ ∃ image l₁,
        handle l = .ok image l₁ ∧ useAsStorage l = .ok () { keepStorage image l₁ with
          object := { (keepStorage image l₁).object with mode := .storage } }) := by
  unfold useAsStorage
  rw [requireUsage_bind]
  cases hu : l.object.usage.contains { storageBinding := true } with
  | false => exact .inl ⟨rfl, rfl⟩
  | true =>
    refine .inr ⟨rfl, ?_⟩
    rw [if_pos rfl, Action.object_bind]
    cases hs : l.object.storageViews with
    | some vs => exact .inl ⟨rfl, rfl⟩
    | none =>
      refine .inr ?_
      cases h : handle l with
      | ok image l₁ =>
        refine .inr ⟨rfl, image, l₁, rfl, ?_⟩
        show (handle >>= _) l = _
        rw [bind_of_ok h, bind_of_ok (mapM_createView ..)]
        obtain ⟨-, rfl | ⟨-, -, rfl⟩⟩ := handle_eq_ok h <;> rfl
      | error e l₁ =>
        obtain ⟨s, -, heq⟩ | ⟨hk, -, heq⟩ | ⟨-, -, heq⟩ := handle_cases l
        · rw [heq] at h
          cases h
        · refine .inl ⟨rfl, hk, ?_⟩
          show (handle >>= _) l = _
          rw [bind_of_error heq]
        · rw [heq] at h
          cases h

/-- Why a layer of a texture cannot be rendered into. -/
inductive TargetRefused (t : Texture) (layer : Nat) : ResourceError → Prop
  | usage (h : t.usage.contains { renderAttachment := true } = false) :
      TargetRefused t layer (.usageNotSupported t.id { renderAttachment := true })
  | layer (h : t.layers ≤ layer) : TargetRefused t layer (.layerOutOfRange t.id layer t.layers)

/-- Rendering fails without its usage or its layer; otherwise the view is there or is made now. -/
theorem useAsTarget_cases (layer : Nat) (l : Live Texture) :
    (∃ e, l.object.TargetRefused layer e ∧ useAsTarget layer l = .error e l) ∨
    l.object.usage.contains { renderAttachment := true } ∧ layer < l.object.layers ∧
      ((l.object.kind = .surface ∨ (l.object.targetViews.lookup layer).isSome) ∧
        useAsTarget layer l =
          .ok () { l with object := { l.object with mode := .target, targetLayer := layer } } ∨
      l.object.kind ≠ .surface ∧ l.object.targetViews.lookup layer = none ∧ ∃ image l₁,
        handle l = .ok image l₁ ∧ useAsTarget layer l = .ok () { keepTarget image layer l₁ with
          object := { (keepTarget image layer l₁).object with
            mode := .target, targetLayer := layer } }) := by
  unfold useAsTarget
  rw [requireUsage_bind]
  cases hu : l.object.usage.contains { renderAttachment := true } with
  | false => exact .inl ⟨_, .usage hu, rfl⟩
  | true =>
    rw [if_pos rfl, Action.object_bind]
    by_cases hl : l.object.layers ≤ layer
    · refine .inl ⟨.layerOutOfRange l.object.id layer l.object.layers, .layer hl, ?_⟩
      rw [if_pos hl]
      rfl
    · refine .inr ⟨rfl, Nat.lt_of_not_le hl, ?_⟩
      rw [if_neg hl]
      by_cases hk : l.object.kind = .surface
      · refine .inl ⟨.inl hk, ?_⟩
        rw [if_neg fun hc => hc.1 hk]
        rfl
      · cases hs : l.object.targetViews.lookup layer with
        | some v =>
          refine .inl ⟨.inr rfl, ?_⟩
          rw [if_neg fun hc => Bool.false_ne_true hc.2]
          rfl
        | none =>
          obtain ⟨image, l₁, h⟩ := exists_handle_eq_ok hk
          refine .inr ⟨hk, rfl, image, l₁, h, ?_⟩
          rw [if_pos ⟨hk, rfl⟩]
          show (makeView _ >>= _) l = _
          rw [bind_of_ok (makeView_of_ok h)]
          obtain ⟨-, rfl | ⟨-, -, rfl⟩⟩ := handle_eq_ok h <;> rfl

/-! ## Reading the view -/

theorem sampledViewNow_of_surface (hk : l.object.kind = .surface) :
    sampledViewNow l = makeView l.object.sampledRange l := by
  unfold sampledViewNow
  rw [Action.object_bind, if_pos hk]

theorem sampledViewNow_of_some {v : View} (hk : l.object.kind ≠ .surface)
    (hv : l.object.sampledView = some v) : sampledViewNow l = .ok v l := by
  unfold sampledViewNow
  rw [Action.object_bind, if_neg hk, hv]
  rfl

/-- The texture after its storage view is read: with auto-advance on, the cursor moves. -/
def advanced (l : Live Texture) : Live Texture :=
  if l.object.autoAdvance then { l with object := l.object.advanceCursor } else l

theorem storageView_apply (l : Live Texture) :
    storageView l = match (l.object.storageViews.getD [])[l.object.cursor]? with
      | some v => .ok v (advanced l)
      | none => .error (.mipLevelOutOfRange l.object.id l.object.cursor) (advanced l) := by
  unfold storageView advanced
  rw [Action.object_bind]
  cases l.object.autoAdvance <;> cases (l.object.storageViews.getD [])[l.object.cursor]? <;> rfl

theorem view_apply (l : Live Texture) :
    view l = match l.object.mode with
      | .none => .error (.usageNotDeclared l.object.id) l
      | .target => targetView l
      | .sampled => sampledViewNow l
      | .storage => storageView l := by
  unfold view
  rw [Action.object_bind]
  cases l.object.mode <;> rfl

/-! ## What actions do -/

theorem useAsSampled_uses : Runs Use useAsSampled := fun l => by
  obtain ⟨-, h⟩ | ⟨hu, ⟨hv, h⟩ | ⟨hk, hn, image, l₁, hl, h⟩⟩ := useAsSampled_cases l
  · exact .of_after (after_error h) .refl
  · exact .of_after (after_ok h) (.single (.sampled hu hv))
  · have hfirst : ReflTransGen Use l l₁ := handle_uses.of_eq_ok hl
    obtain ⟨himage, rfl | ⟨-, -, rfl⟩⟩ := handle_eq_ok hl
    all_goals
      exact .of_after (after_ok h)
        ((hfirst.tail (.keepSampled hk himage hn)).tail (.sampled hu (.inr rfl)))

theorem useAsStorage_uses : Runs Use useAsStorage := fun l => by
  obtain ⟨-, h⟩ | ⟨hu, ⟨hv, h⟩ | ⟨-, -, h⟩ | ⟨hn, image, l₁, hl, h⟩⟩ := useAsStorage_cases l
  · exact .of_after (after_error h) .refl
  · exact .of_after (after_ok h) (.single (.storage hu hv))
  · exact .of_after (after_error h) .refl
  · have hfirst : ReflTransGen Use l l₁ := handle_uses.of_eq_ok hl
    obtain ⟨himage, rfl | ⟨-, -, rfl⟩⟩ := handle_eq_ok hl
    all_goals
      exact .of_after (after_ok h)
        ((hfirst.tail (.keepStorage hu himage hn)).tail (.storage hu rfl))

theorem useAsTarget_attaches (layer : Nat) : Runs Attach (useAsTarget layer) := fun l => by
  obtain ⟨e, -, h⟩ | ⟨hu, hlayer, ⟨hv, h⟩ | ⟨hk, hn, image, l₁, hl, h⟩⟩ := useAsTarget_cases layer l
  · exact .of_after (after_error h) .refl
  · exact .of_after (after_ok h) (.single (.select hu hlayer hv))
  · have hselect {l₁ : Live Texture} (hu : l₁.object.usage.contains { renderAttachment := true })
        (hlayer : layer < l₁.object.layers) (hk : l₁.object.kind ≠ .surface)
        (himage : l₁.object.image? l₁.device = some image)
        (hn : l₁.object.targetViews.lookup layer = none) :
        ReflTransGen Attach l₁ { keepTarget image layer l₁ with
          object := { (keepTarget image layer l₁).object with
            mode := .target, targetLayer := layer } } := by
      refine (ReflTransGen.single (.keep hk hlayer himage hn)).tail (.select hu hlayer (.inr ?_))
      simp [keepTarget, List.lookup_append]
    obtain ⟨himage, rfl | ⟨-, hd, rfl⟩⟩ := handle_eq_ok hl
    · exact .of_after (after_ok h) (hselect hu hlayer hk himage hn)
    · exact .of_after (after_ok h)
        ((ReflTransGen.single (.make hk hd)).trans (hselect hu hlayer hk himage hn))

theorem useAsTarget_runs (layer : Nat) : Runs Step (useAsTarget layer) := fun l =>
  (useAsTarget_attaches layer l).mono fun _ _ => Attach.step

theorem makeView_uses (range : ViewRange) : Runs Use (makeView range) := fun l => by
  cases h : handle l with
  | error e l₁ =>
    exact .of_after (after_error (makeView_of_error h)) (handle_uses.of_eq_error h)
  | ok image l₁ =>
    have hfirst : ReflTransGen Use l l₁ := handle_uses.of_eq_ok h
    exact .of_after (after_ok (makeView_of_ok h)) (hfirst.tail (.view range (handle_eq_ok h).1))

/-- Reading the view for rendering changes nothing. -/
theorem runs_targetView {R : Live Texture → Live Texture → Prop} : Runs R targetView := fun l => by
  unfold targetView
  refine .object ?_
  split
  · exact RunsFrom.bind (.of_after after_surface .refl) fun _ _ _ => .refl
  · cases l.object.targetViews.lookup l.object.targetLayer <;> exact .refl

theorem sampledViewNow_uses : Runs Use sampledViewNow := fun l => by
  unfold sampledViewNow
  refine .object ?_
  split
  · exact makeView_uses _ l
  · cases l.object.sampledView <;> exact .refl

theorem storageView_uses : Runs Use storageView := fun l => by
  have hadvanced : ReflTransGen Use l (advanced l) := by
    unfold advanced
    split
    · next ha => exact .single (.advance ha)
    · exact .refl
  unfold RunsFrom after
  rw [storageView_apply]
  cases (l.object.storageViews.getD [])[l.object.cursor]? <;> exact hadvanced

theorem view_uses : Runs Use view := fun l => by
  unfold view
  refine .object ?_
  cases l.object.mode with
  | none => exact .refl
  | target => exact runs_targetView l
  | sampled => exact sampledViewNow_uses l
  | storage => exact storageView_uses l

theorem write_refreshes {p : SyncPoint} {w : TextureWrite}
    (h : l.object.image? l.device = some image) : RunsFrom (Refresh p) (write image w) l := by
  unfold write
  refine .object (.check fun hlayer => .check fun hmip => .log ?_)
  exact .write h (Nat.lt_of_not_le hlayer) (Nat.lt_of_not_le hmip)

/-- A write leaves the device texture. -/
theorem write_image {serial : Nat} {w : TextureWrite} {u : Unit}
    (h : write serial w l = .ok u l') : l'.object.image? l'.device = l.object.image? l.device := by
  unfold write at h
  rw [Action.object_bind] at h
  split at h
  · cases h
  · split at h
    · cases h
    · cases h
      rfl

theorem askHandler_refreshes (p : SyncPoint) : Runs (Refresh p) (askHandler p) := fun l => by
  unfold askHandler
  refine .object ?_
  cases hh : l.object.handler with
  | none => exact .refl
  | some h => exact .single (.ask hh)

/-- Asking the handler leaves the device texture. -/
theorem askHandler_image {p : SyncPoint} {writes : List TextureWrite}
    (h : askHandler p l = .ok writes l') :
    l'.object.image? l'.device = l.object.image? l.device := by
  unfold askHandler at h
  rw [Action.object_bind] at h
  cases hh : l.object.handler with
  | none =>
    rw [hh] at h
    cases h
    rfl
  | some _ =>
    rw [hh] at h
    cases h
    rfl

theorem acquire_refreshes (p : SyncPoint) : Runs (Refresh p) (acquire p) := fun l => by
  unfold acquire
  refine (handle_refreshes p l).bind fun image l₁ h₁ =>
    (askHandler_refreshes p l₁).bind fun writes l₂ h₂ => ?_
  refine RunsFrom.forM (I := fun l => l.object.image? l.device = some image) ?_ ?_ writes ?_
  · exact fun w l h => write_refreshes h
  · exact fun w l u l' h hw => (write_image hw).trans h
  · exact (askHandler_image h₂).trans (handle_eq_ok h₁).1

theorem acquire_runs (p : SyncPoint) : Runs Step (acquire p) := fun l =>
  (acquire_refreshes p l).mono fun _ _ => Refresh.step

theorem pointCursor_runs (level : Nat) : Runs Step (Action.change fun t => t.pointCursor level) :=
  fun _ => .single (.point level)

theorem advanceCursor_runs : Runs Step (Action.change advanceCursor) := fun _ => .single .advance

theorem setAutoAdvance_runs (enabled : Bool) :
    Runs Step (Action.change (setAutoAdvance enabled)) := fun _ => .single (.setAutoAdvance enabled)

theorem setHandler_runs (handler : Handler TextureWrite) :
    Runs Step (Action.change (setHandler handler)) := fun _ => .single (.setHandler handler)

theorem mipViews_uses (start : Nat) : Runs Use (mipViews start) := fun l => by
  unfold mipViews
  exact (useAsStorage_uses l).bind fun _ _ _ => .object .refl

end PassForge.Texture
