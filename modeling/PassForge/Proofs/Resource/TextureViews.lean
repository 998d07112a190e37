import Mathlib.Algebra.Group.Nat.Defs
import PassForge.Proofs.Resource.Texture

/-!
# Views of textures

The views that a texture keeps are views of its own device texture, and there is a storage view for
every mip.

* `Texture.ShowsLayer`, `ShowsAll` and `ShowsMip` say what a view for rendering, for sampling and for
  storage access shows of a device texture: each field of the view, and that the device has made it.
* `Texture.Sound` says that the kept views show that; every step keeps it (`Step.sound`).
* `Texture.bare` is a texture without what binding it leaves on it; `Use.bare` is the step lemma.
* `bindView_spec`: binding a sound texture fails exactly if it is not `bindable`, which depends on the
  bare texture and the surface alone, and otherwise gives a view of what the binding takes.
-/

namespace PassForge.Texture

open Relation (ReflTransGen)

variable {l l' : Live Texture} {t : Texture} {d d' : Device} {image : Nat} {v : View}

/-! ## What views show -/

/-- A view for rendering: the first mip of one layer of a device texture. -/
def ShowsLayer (t : Texture) (d : Device) (image layer : Nat) : View → Prop :=
  d.HasView t.label image {
    dimension := .d2
    aspect := .all
    baseMip := 0
    mips := 1
    baseLayer := layer
    layers := 1 }

/-- A view for sampling: all mips and all layers of a device texture, and of a format with a depth or
a stencil aspect the first of them that it has. A texture of several layers is seen as what it is. -/
def ShowsAll (t : Texture) (d : Device) (image : Nat) : View → Prop :=
  d.HasView t.label image {
    dimension := match t.kind with
      | .d2 | .storage2d | .surface => .d2
      | .d2Array => .d2Array
      | .cube => .cube
    aspect :=
      if t.format.hasDepth then .depthOnly
      else if t.format.hasStencil then .stencilOnly
      else .all
    baseMip := 0
    mips := t.mips
    baseLayer := 0
    layers := t.layers }

/-- A view for storage access: one mip of all layers of a device texture. The faces of a cube are seen
as an array. -/
def ShowsMip (t : Texture) (d : Device) (image level : Nat) : View → Prop :=
  d.HasView t.label image {
    dimension := match t.kind with
      | .d2 | .storage2d | .surface => .d2
      | .d2Array | .cube => .d2Array
    aspect := .all
    baseMip := level
    mips := 1
    baseLayer := 0
    layers := t.layers }

theorem showsLayer_of_hasView {layer : Nat}
    (h : d.HasView t.label image (t.targetRange layer) v) : t.ShowsLayer d image layer v := h

theorem showsAll_of_hasView (h : d.HasView t.label image t.sampledRange v) :
    t.ShowsAll d image v := by
  unfold ShowsAll
  unfold sampledRange sampledAspect at h
  cases hk : t.kind <;> rwa [hk] at h

theorem showsMip_of_hasView {level : Nat}
    (h : d.HasView t.label image (t.storageRange level) v) : t.ShowsMip d image level v := by
  unfold ShowsMip
  unfold storageRange at h
  cases hk : t.kind <;> rwa [hk] at h

/-- The views that are made for storage access show one mip each, in the order of the mips. -/
theorem showsMip_createViews : List.Forall₂
    (t.ShowsMip (d.createViews t.label image t.storageRanges).2 image) (List.range t.mips)
    (d.createViews t.label image t.storageRanges).1 := by
  have hviews : List.Forall₂
      ((d.createViews t.label image t.storageRanges).2.HasView t.label image) t.storageRanges
      (d.createViews t.label image t.storageRanges).1 := Device.hasView_createViews
  exact (List.forall₂_map_left_iff.1 hviews).imp fun _ _ => showsMip_of_hasView

/-! ## What every step keeps -/

theorem serves_made : l.device.Serves (made l).device := by
  have hc := Device.Serves.createTexture (d := l.device) l.object.request
  unfold made
  cases l.object.format.isDepthStencil with
  | true => exact hc
  | false => exact hc.trans (.foldl_log _ (fun _ => rfl) _)

theorem Use.serves (h : Use l l') : l.device.Serves l'.device := by
  cases h with
  | make => exact serves_made
  | view | keepSampled => exact .createView ..
  | keepStorage => exact .createViews
  | sampled | storage | advance => exact .refl

/-- A step makes no shader module and no pipeline, and leaves the surface. -/
theorem Step.serves (h : Step l l') : l.device.Serves l'.device := by
  cases h with
  | use h => exact h.serves
  | write | ask => exact .log rfl
  | keepTarget => exact .createView ..
  | target | point | advance | setAutoAdvance | setHandler => exact .refl

theorem Step.id (h : Step l l') : l'.object.id = l.object.id := by
  cases h with
  | use h => cases h <;> rfl
  | write | ask | keepTarget | target | point | advance | setAutoAdvance | setHandler => rfl

/-- The views that a texture keeps are views of its device texture, the cursor is at one of its mips,
and no surface allows storage access. -/
structure Sound (t : Texture) (d : Device) : Prop where
  cursor : t.cursor < t.mips
  surface : t.usage.contains { storageBinding := true } → t.kind ≠ .surface
  created : ∀ image, t.device = some image → .textureCreated image t.request ∈ d.trace
  sampled : ∀ v, t.sampledView = some v → ∃ image, t.device = some image ∧ t.ShowsAll d image v
  storage : ∀ vs, t.storageViews = some vs → ∃ image, t.device = some image ∧
    List.Forall₂ (t.ShowsMip d image) (List.range t.mips) vs

theorem Sound.later (h : t.Sound d) (hd : d.Later d') : t.Sound d' where
  cursor := h.cursor
  surface := h.surface
  created image hi := hd.mem (h.created image hi)
  sampled v hv := by
    obtain ⟨image, hi, hview⟩ := h.sampled v hv
    exact ⟨image, hi, hview.later hd⟩
  storage vs hvs := by
    obtain ⟨image, hi, hviews⟩ := h.storage vs hvs
    exact ⟨image, hi, hviews.imp fun _ _ hview => hview.later hd⟩

theorem created_made :
    .textureCreated l.device.nextSerial l.object.request ∈ (made l).device.trace := by
  have hc : .textureCreated l.device.nextSerial l.object.request ∈
      (l.device.createTexture l.object.request).2.trace :=
    List.mem_append_right _ (List.mem_singleton_self _)
  unfold made
  cases l.object.format.isDepthStencil with
  | true => exact hc
  | false => exact (Device.Serves.foldl_log _ (fun _ => rfl) _).later.mem hc

/-- The initial contents as writes: one for each layer, none for a depth-stencil texture. -/
def initialWrites (t : Texture) : List TextureWrite :=
  if t.format.isDepthStencil then []
  else t.contents.zipIdx.map fun p => { layer := p.2, mip := 0, data := p.1 }

/-- The event of a write into a device texture: the data are for the full extent of the mip of the layer,
in rows of blocks. -/
def written (t : Texture) (image : Nat) (w : TextureWrite) : Event :=
  let width := max (t.width / 2 ^ w.mip) 1
  let height := max (t.height / 2 ^ w.mip) 1
  let block := t.format.info.block
  .textureWritten image {
    mip := w.mip
    layer := w.layer
    width := width
    height := height
    data := w.data
    bytesPerRow := (width + block.1 - 1) / block.1 * t.format.info.copySize.getD 4
    rows := (height + block.2 - 1) / block.2 }

theorem mipExtent_eq (t : Texture) (level : Nat) :
    t.mipExtent level = (max (t.width / 2 ^ level) 1, max (t.height / 2 ^ level) 1) := by
  simp only [mipExtent, Nat.shiftRight_eq_div_pow]

theorem textureWritten_levelWrite (w : TextureWrite) :
    .textureWritten image (t.levelWrite w.layer w.mip w.data) = t.written image w := by
  unfold levelWrite written
  rw [mipExtent_eq]

/-- What the first use appends to the trace: the device texture and the initial contents. -/
theorem trace_made : (made l).device.trace = l.device.trace ++
    .textureCreated l.device.nextSerial l.object.request ::
      l.object.initialWrites.map (l.object.written l.device.nextSerial) := by
  unfold made initialWrites
  cases l.object.format.isDepthStencil with
  | true => rfl
  | false =>
    refine (Device.trace_foldl_log _ _).trans ?_
    simp [Device.createTexture, Device.create, Device.log, ← textureWritten_levelWrite]

/-- Off the surface, the device texture is the one that the texture keeps. -/
theorem image?_of_ne (hk : t.kind ≠ .surface) : t.image? d = t.device := if_neg hk

theorem Use.sound (h : Use l l') (hl : l.object.Sound l.device) : l'.object.Sound l'.device := by
  have hd := hl.later h.serves.later
  cases h with
  | make hk hn =>
    refine ⟨hl.cursor, hl.surface, fun image hi => ?_, fun v hv => ?_, fun vs hvs => ?_⟩
    · cases hi
      exact created_made
    · obtain ⟨image, hi, -⟩ := hl.sampled v hv
      rw [hn] at hi
      cases hi
    · obtain ⟨image, hi, -⟩ := hl.storage vs hvs
      rw [hn] at hi
      cases hi
  | view => exact hd
  | keepSampled hk hi =>
    refine ⟨hd.cursor, hd.surface, hd.created, fun v hv => ?_, hd.storage⟩
    cases hv
    exact ⟨_, image?_of_ne hk ▸ hi, showsAll_of_hasView Device.hasView_createView⟩
  | keepStorage hu hi =>
    refine ⟨hd.cursor, hd.surface, hd.created, hd.sampled, fun vs hvs => ?_⟩
    cases hvs
    exact ⟨_, image?_of_ne (hl.surface hu) ▸ hi, showsMip_createViews⟩
  | sampled | storage => exact ⟨hl.cursor, hl.surface, hl.created, hl.sampled, hl.storage⟩
  | advance =>
    exact ⟨Nat.mod_lt _ (Nat.zero_lt_of_lt hl.cursor), hl.surface, hl.created, hl.sampled,
      hl.storage⟩

/-- A step keeps a texture sound. -/
theorem Step.sound (h : Step l l') (hl : l.object.Sound l.device) :
    l'.object.Sound l'.device := by
  have hd := hl.later h.serves.later
  cases h with
  | use h => exact h.sound hl
  | write => exact hd
  | point | advance =>
    exact ⟨Nat.mod_lt _ (Nat.zero_lt_of_lt hl.cursor), hl.surface, hl.created, hl.sampled,
      hl.storage⟩
  | ask | keepTarget | target | setAutoAdvance | setHandler =>
    exact ⟨hd.cursor, hd.surface, hd.created, hd.sampled, hd.storage⟩

theorem sound_of_uses (h : ReflTransGen Use l l') (hl : l.object.Sound l.device) :
    l'.object.Sound l'.device := by
  induction h with
  | refl => exact hl
  | tail _ h ih => exact h.sound ih

/-! ## What binding leaves -/

/-- A texture without what binding it leaves on it. -/
def bare (t : Texture) : Texture :=
  { t with
    contents := []
    device := none
    mode := .none
    sampledView := none
    storageViews := none
    cursor := 0 }

/-- What a bare texture still shows is the same of textures that are the same when bare. -/
theorem field_of_bare {α : Type} {t' : Texture} (f : Texture → α) (hf : ∀ t, f t.bare = f t)
    (h : t'.bare = t.bare) : f t' = f t := by
  rw [← hf t', h, hf]

theorem Use.bare (h : Use l l') : l'.object.bare = l.object.bare := by
  cases h <;> rfl

/-- Binding leaves the device texture that is there. -/
theorem Use.device (h : Use l l') (hi : l.object.device = some image) :
    l'.object.device = some image := by
  cases h with
  | make _ hn => exact nomatch hn.symm.trans hi
  | view | keepSampled | keepStorage | sampled | storage | advance => exact hi

theorem bare_of_uses (h : ReflTransGen Use l l') : l'.object.bare = l.object.bare := by
  induction h with
  | refl => rfl
  | tail _ h ih => exact h.bare.trans ih

theorem device_of_uses (h : ReflTransGen Use l l') (hi : l.object.device = some image) :
    l'.object.device = some image := by
  induction h with
  | refl => exact hi
  | tail _ h ih => exact h.device ih

theorem serves_of_uses (h : ReflTransGen Use l l') : l.device.Serves l'.device := by
  induction h with
  | refl => exact .refl
  | tail _ h ih => exact ih.trans h.serves

/-! ## What bringing up to date leaves -/

/-- A texture without what bringing it up to date changes on it. -/
def idle (t : Texture) : Texture := { t with contents := [], device := none, handler := none }

theorem Refresh.idle {p : SyncPoint} (h : Refresh p l l') : l'.object.idle = l.object.idle := by
  cases h <;> rfl

theorem idle_of_refreshes {p : SyncPoint} (h : ReflTransGen (Refresh p) l l') :
    l'.object.idle = l.object.idle := by
  induction h with
  | refl => rfl
  | tail _ h ih => exact h.idle.trans ih

/-! ## Binding -/

/-- Selects storage access or sampling and reads the view. -/
def bindView (storage : Bool) : Action Texture View := do
  if storage then useAsStorage else useAsSampled
  view

/-- Whether a texture can be bound: its usage must allow it, and a surface must have its image. -/
def bindable (t : Texture) (d : Device) : Bool → Except ResourceError Unit
  | true =>
    if t.usage.contains { storageBinding := true } then .ok ()
    else .error (.usageNotSupported t.id { storageBinding := true })
  | false =>
    if t.usage.contains { textureBinding := true } then
      if t.kind = .surface ∧ d.surface = none then .error .surfaceUnavailable else .ok ()
    else .error (.usageNotSupported t.id { textureBinding := true })

/-- Whether a texture can be bound does not depend on what binding leaves on it. -/
theorem bindable_congr {storage : Bool} {t' : Texture} (hb : t'.bare = t.bare)
    (hd : d'.surface = d.surface) : t'.bindable d' storage = t.bindable d storage := by
  rw [field_of_bare (fun t => t.bindable d' storage) (fun t => by cases storage <;> rfl) hb]
  unfold bindable
  rw [hd]

theorem bindView_uses (storage : Bool) : Runs Use (bindView storage) := fun l => by
  unfold bindView
  cases storage with
  | true => exact (useAsStorage_uses l).bind fun _ l' _ => view_uses l'
  | false => exact (useAsSampled_uses l).bind fun _ l' _ => view_uses l'

theorem useAsStorage_eq_ok (h : useAsStorage l = .ok () l') :
    l.object.usage.contains { storageBinding := true } ∧ l'.object.mode = .storage ∧
      l'.object.storageViews.isSome := by
  obtain ⟨-, heq⟩ | ⟨hu, ⟨hv, heq⟩ | ⟨-, -, heq⟩ | ⟨-, image, l₁, -, heq⟩⟩ := useAsStorage_cases l
  all_goals rw [heq] at h; cases h
  · exact ⟨hu, rfl, hv⟩
  · exact ⟨hu, rfl, rfl⟩

theorem useAsSampled_eq_ok (h : useAsSampled l = .ok () l') :
    l.object.usage.contains { textureBinding := true } ∧ l'.object.mode = .sampled ∧
      (l'.object.kind = .surface ∨ l'.object.sampledView.isSome) := by
  obtain ⟨-, heq⟩ | ⟨hu, ⟨hv, heq⟩ | ⟨-, -, image, l₁, -, heq⟩⟩ := useAsSampled_cases l
  all_goals rw [heq] at h; cases h
  · exact ⟨hu, rfl, hv⟩
  · exact ⟨hu, rfl, .inr rfl⟩

theorem useAsTarget_eq_ok {layer : Nat} (h : useAsTarget layer l = .ok () l') :
    l'.object.mode = .target ∧ l'.object.targetLayer = layer ∧
      (l'.object.kind = .surface ∨ (l'.object.targetViews.lookup layer).isSome) := by
  obtain ⟨e, -, heq⟩ | ⟨-, -, ⟨hv, heq⟩ | ⟨-, -, image, l₁, -, heq⟩⟩ := useAsTarget_cases layer l
  all_goals rw [heq] at h; cases h
  · exact ⟨rfl, rfl, hv⟩
  · exact ⟨rfl, rfl, .inr (by simp [keepTarget, List.lookup_append])⟩

/-- The storage view that a sound texture keeps of a mip is a view of that mip. -/
theorem Sound.showsMip (ht : t.Sound d) {vs : List View} (hvs : t.storageViews = some vs) {mip : Nat}
    (hv : vs[mip]? = some v) :
    ∃ image, t.device = some image ∧ t.ShowsMip d image mip v := by
  obtain ⟨image, himage, hviews⟩ := ht.storage vs hvs
  obtain ⟨hlt, rfl⟩ := List.getElem?_eq_some_iff.1 hv
  have hget := hviews.get (hviews.length_eq ▸ hlt) hlt
  exact ⟨image, himage, by simpa using hget⟩

/-- Reading a storage view of a sound texture gives the view of the mip at the cursor. -/
theorem exists_storageView (hl : l.object.Sound l.device) (hv : l.object.storageViews.isSome) :
    ∃ image v, l.object.device = some image ∧ storageView l = .ok v (advanced l) ∧
      l.object.ShowsMip l.device image l.object.cursor v := by
  obtain ⟨vs, hvs⟩ := Option.isSome_iff_exists.1 hv
  obtain ⟨_, -, hviews⟩ := hl.storage vs hvs
  have hlt : l.object.cursor < vs.length := by
    simpa [← hviews.length_eq] using hl.cursor
  have hget := List.getElem?_eq_getElem hlt
  obtain ⟨image, himage, hview⟩ := hl.showsMip hvs hget
  exact ⟨image, vs[l.object.cursor], himage, by rw [storageView_apply, hvs, Option.getD_some, hget],
    hview⟩

/-- A view that is bound, of the device texture behind a texture: of one mip for storage access, and
of all mips for sampling. -/
def Shows (storage : Bool) (t : Texture) (d : Device) (v : View) : Prop :=
  ∃ image, t.image? d = some image ∧
    match storage with
    | true => ∃ level < t.mips, t.ShowsMip d image level v
    | false => t.ShowsAll d image v

/-- The device texture of a texture is that of a later state of it. -/
theorem image?_later {t' : Texture} (hb : t'.bare = t.bare) (hs : d'.surface = d.surface)
    (hdevice : ∀ image, t.device = some image → t'.device = some image)
    (hi : t.image? d = some image) : t'.image? d' = some image := by
  have hkind := field_of_bare Texture.kind (fun _ => rfl) hb
  unfold image? at hi ⊢
  rw [hkind, hs]
  split at hi
  · next hk => rwa [if_pos hk]
  · next hk =>
    rw [if_neg hk]
    exact hdevice image hi

theorem Shows.later {storage : Bool} {t' : Texture} (hv : t.Shows storage d v)
    (hb : t'.bare = t.bare) (hd : d.Later d') (hs : d'.surface = d.surface)
    (hdevice : ∀ image, t.device = some image → t'.device = some image) :
    t'.Shows storage d' v := by
  obtain ⟨image, himage, hview⟩ := hv
  refine ⟨image, image?_later hb hs hdevice himage, ?_⟩
  cases storage with
  | true =>
    obtain ⟨level, hlevel, hview⟩ := hview
    rw [← field_of_bare Texture.mips (fun _ => rfl) hb] at hlevel
    rw [← field_of_bare (fun t => t.ShowsMip d image level v) (fun _ => rfl) hb] at hview
    exact ⟨level, hlevel, hview.later hd⟩
  | false =>
    rw [← field_of_bare (fun t => t.ShowsAll d image v) (fun _ => rfl) hb] at hview
    exact hview.later hd

theorem Shows.uses {storage : Bool} (h : ReflTransGen Use l l')
    (hv : l.object.Shows storage l.device v) : l'.object.Shows storage l'.device v :=
  have hserves := serves_of_uses h
  hv.later (bare_of_uses h) hserves.later hserves.surface fun _ => device_of_uses h

theorem exists_view_storage (hl : l.object.Sound l.device)
    (hu : l.object.usage.contains { storageBinding := true }) (hm : l.object.mode = .storage)
    (hv : l.object.storageViews.isSome) :
    ∃ v l', view l = .ok v l' ∧ l.object.Shows true l.device v := by
  obtain ⟨image, v, himage, hview, hhas⟩ := exists_storageView hl hv
  exact ⟨v, advanced l, by rw [view_apply, hm, hview], image,
    (image?_of_ne (hl.surface hu)).trans himage, _, hl.cursor, hhas⟩

/-- Reading the view of a sound texture that is sampled fails exactly if the surface lacks its
image. -/
theorem view_sampled (hl : l.object.Sound l.device) (hm : l.object.mode = .sampled)
    (hv : l.object.kind = .surface ∨ l.object.sampledView.isSome) :
    (l.object.kind = .surface ∧ l.device.surface = none ∧
      view l = .error .surfaceUnavailable l) ∨
    ¬(l.object.kind = .surface ∧ l.device.surface = none) ∧
      ∃ v l', view l = .ok v l' ∧ l'.object.Shows false l'.device v := by
  rw [view_apply, hm]
  by_cases hk : l.object.kind = .surface
  · show _ ∧ _ ∧ sampledViewNow l = _ ∨ _ ∧ ∃ v l', sampledViewNow l = _ ∧ _
    rw [sampledViewNow_of_surface hk]
    cases hs : l.device.surface with
    | none => exact .inl ⟨hk, rfl, makeView_of_error (handle_of_noSurface hk hs)⟩
    | some s =>
      refine .inr ⟨fun h => (nomatch h.2), _, _, makeView_of_ok (handle_of_surface hk hs),
        s.texture, ?_, showsAll_of_hasView Device.hasView_createView⟩
      show (if l.object.kind = .surface then l.device.surface.map SurfaceImage.texture else _) = _
      rw [if_pos hk, hs]
      rfl
  · obtain ⟨v, hsome⟩ := Option.isSome_iff_exists.1 (hv.resolve_left hk)
    obtain ⟨image, himage, hhas⟩ := hl.sampled v hsome
    exact .inr ⟨fun h => hk h.1, v, l, sampledViewNow_of_some hk hsome, image,
      (image?_of_ne hk).trans himage, hhas⟩

theorem bindView_storage (hl : l.object.Sound l.device) :
    (∃ e l', l.object.bindable l.device true = .error e ∧ bindView true l = .error e l') ∨
      l.object.bindable l.device true = .ok () ∧ ∃ v l', bindView true l = .ok v l' ∧
        l'.object.Shows true l'.device v := by
  show (∃ e l', _ ∧ (useAsStorage >>= fun _ => view) l = .error e l') ∨
    _ ∧ ∃ v l', (useAsStorage >>= fun _ => view) l = .ok v l' ∧ _
  cases h : useAsStorage l with
  | error e l₁ =>
    refine .inl ⟨e, l₁, ?_, bind_of_error h⟩
    obtain ⟨hu, heq⟩ | ⟨hu, ⟨-, heq⟩ | ⟨-, hk, heq⟩ | ⟨-, image, l₁, -, heq⟩⟩ :=
      useAsStorage_cases l
    · rw [heq] at h
      cases h
      exact if_neg (Bool.eq_false_iff.1 hu)
    · rw [heq] at h
      cases h
    · exact absurd hk (hl.surface hu)
    · rw [heq] at h
      cases h
  | ok u l₁ =>
    have huses : ReflTransGen Use l l₁ := useAsStorage_uses.of_eq_ok h
    obtain ⟨hu, hmode, hviews⟩ := useAsStorage_eq_ok h
    have hu₁ : l₁.object.usage.contains { storageBinding := true } := by
      rwa [field_of_bare Texture.usage (fun _ => rfl) (bare_of_uses huses)]
    obtain ⟨v, l', hview, hshows⟩ :=
      exists_view_storage (sound_of_uses huses hl) hu₁ hmode hviews
    exact .inr ⟨if_pos hu, v, l', (bind_of_ok h).trans hview,
      hshows.uses (view_uses.of_eq_ok hview)⟩

theorem bindView_sampled (hl : l.object.Sound l.device) :
    (∃ e l', l.object.bindable l.device false = .error e ∧ bindView false l = .error e l') ∨
      l.object.bindable l.device false = .ok () ∧ ∃ v l', bindView false l = .ok v l' ∧
        l'.object.Shows false l'.device v := by
  show (∃ e l', _ ∧ (useAsSampled >>= fun _ => view) l = .error e l') ∨
    _ ∧ ∃ v l', (useAsSampled >>= fun _ => view) l = .ok v l' ∧ _
  cases h : useAsSampled l with
  | error e l₁ =>
    refine .inl ⟨e, l₁, ?_, bind_of_error h⟩
    obtain ⟨hu, heq⟩ | ⟨hu, ⟨-, heq⟩ | ⟨-, -, image, l₁, -, heq⟩⟩ := useAsSampled_cases l
    · rw [heq] at h
      cases h
      exact if_neg (Bool.eq_false_iff.1 hu)
    · rw [heq] at h
      cases h
    · rw [heq] at h
      cases h
  | ok u l₁ =>
    have huses : ReflTransGen Use l l₁ := useAsSampled_uses.of_eq_ok h
    obtain ⟨hu, hmode, hviews⟩ := useAsSampled_eq_ok h
    have hkind := field_of_bare Texture.kind (fun _ => rfl) (bare_of_uses huses)
    have hsurface := (serves_of_uses huses).surface
    obtain ⟨hk, hs, hview⟩ | ⟨hno, v, l', hview, hshows⟩ :=
      view_sampled (sound_of_uses huses hl) hmode hviews
    · rw [hkind] at hk
      rw [hsurface] at hs
      exact .inl ⟨_, _, (if_pos hu).trans (if_pos ⟨hk, hs⟩), (bind_of_ok h).trans hview⟩
    · rw [hkind, hsurface] at hno
      exact .inr ⟨(if_pos hu).trans (if_neg hno), v, l', (bind_of_ok h).trans hview, hshows⟩

/-- Binding a sound texture fails exactly if it cannot be bound, and otherwise gives a view that shows
what the binding takes. -/
theorem bindView_spec (storage : Bool) (hl : l.object.Sound l.device) :
    (∃ e l', l.object.bindable l.device storage = .error e ∧ bindView storage l = .error e l') ∨
      l.object.bindable l.device storage = .ok () ∧ ∃ v l', bindView storage l = .ok v l' ∧
        l'.object.Shows storage l'.device v := by
  cases storage with
  | true => exact bindView_storage hl
  | false => exact bindView_sampled hl

/-! ## Rendering -/

/-- Selects rendering into a layer and reads the view. -/
def attachView (layer : Nat) : Action Texture View := do
  useAsTarget layer
  view

theorem attachView_attaches (layer : Nat) : Runs Attach (attachView layer) := fun l => by
  refine (useAsTarget_attaches layer l).bind fun _ l₁ h => ?_
  unfold view
  refine .object ?_
  rw [(useAsTarget_eq_ok h).1]
  exact runs_targetView l₁

/-- A view that is read for rendering is the one of the image of the frame, or the one that is kept for
the selected layer; reading it changes nothing. -/
theorem targetView_eq_ok (h : targetView l = .ok v l') : l' = l ∧
    ((l.object.kind = .surface ∧ ∃ s, l.device.surface = some s ∧ v = s.view) ∨
      l.object.kind ≠ .surface ∧
        l.object.targetViews.lookup l.object.targetLayer = some v) := by
  unfold targetView at h
  rw [Action.object_bind] at h
  by_cases hk : l.object.kind = .surface
  · rw [if_pos hk] at h
    obtain ⟨s, l₁, himage, h⟩ := bind_eq_ok h
    cases h
    unfold Action.surface at himage
    cases hs : l.device.surface with
    | none =>
      rw [hs] at himage
      cases himage
    | some s' =>
      rw [hs] at himage
      cases himage
      exact ⟨rfl, .inl ⟨hk, s, rfl, rfl⟩⟩
  · rw [if_neg hk] at h
    cases hv : l.object.targetViews.lookup l.object.targetLayer with
    | none =>
      rw [hv] at h
      cases h
    | some v' =>
      rw [hv] at h
      cases h
      exact ⟨rfl, .inr ⟨hk, rfl⟩⟩

/-- The same of a view that is read just after its layer was selected. -/
theorem attachView_eq_ok {layer : Nat} (h : attachView layer l = .ok v l') :
    (l'.object.kind = .surface ∧ ∃ s, l'.device.surface = some s ∧ v = s.view) ∨
      l'.object.kind ≠ .surface ∧ l'.object.targetViews.lookup layer = some v := by
  obtain ⟨u, l₁, hselect, hview⟩ := bind_eq_ok h
  obtain ⟨hmode, hlayer, -⟩ := useAsTarget_eq_ok hselect
  rw [view_apply, hmode] at hview
  obtain ⟨rfl, hv⟩ := targetView_eq_ok hview
  rwa [hlayer] at hv

end PassForge.Texture
