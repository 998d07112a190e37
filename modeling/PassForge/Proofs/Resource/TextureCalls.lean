import Mathlib
import PassForge.Proofs.Context.Sound

/-!
# Sequences of calls on a texture

A `Call` is a call of one of the operations on a texture. A call that fails does not end a sequence:
`afterCalls` is what all calls of a sequence leave, and `successes` are those that succeed.

* A `Selection` is what a call selects, a `Slot` what a kept view is for: the storage views are kept by
  mip, and the cursor says which of them is read.
* `Change` lists the changes that calls make to a texture that is no surface. `Tracked` is the
  invariant: which views are kept, that each was made once, and that the selected one is there.
  `Change.tracked` is the step lemma and `tracked_afterCalls` the run lemma.
* `calls_spec` is the whole statement.
-/

namespace PassForge

/-- The texture that an event makes, with what was asked for. -/
def Event.texture? : Event → Option (Nat × TextureRequest)
  | .textureCreated serial request => some (serial, request)
  | _ => none

/-- The view that an event makes, with its label. -/
def Event.view? : Event → Option (Option String × View)
  | .viewCreated label view => some (label, view)
  | _ => none

namespace Texture

open Relation (ReflTransGen)

variable {l l' : Live Texture} {t : Texture} {d : Device} {image : Nat} {v : View}

/-! ## Calls -/

/-- What the view of a texture is selected for. -/
inductive Selection where
  | target (layer : Nat)
  | sampled
  | storage
  deriving DecidableEq

/-- A call of an operation on a texture. -/
inductive Call where
  | useAsTarget (layer : Nat)
  | useAsSampled
  | useAsStorage
  | mipViews (start : Nat)
  | view
  | pointCursor (level : Nat)
  | advanceCursor
  | setAutoAdvance (enabled : Bool)
  | handle
  | acquire (p : SyncPoint)
  deriving DecidableEq

namespace Call

/-- What a call does, without what it yields. -/
def action : Call → Action Texture Unit
  | useAsTarget layer => Texture.useAsTarget layer
  | useAsSampled => Texture.useAsSampled
  | useAsStorage => Texture.useAsStorage
  | mipViews start => do let _ ← Texture.mipViews start
  | view => do let _ ← Texture.view
  | pointCursor level => Action.change fun t => t.pointCursor level
  | advanceCursor => Action.change Texture.advanceCursor
  | setAutoAdvance enabled => Action.change (Texture.setAutoAdvance enabled)
  | handle => do let _ ← Texture.handle
  | acquire p => Texture.acquire p

/-- What a call selects if it succeeds. -/
def selects : Call → Option Selection
  | useAsTarget layer => some (.target layer)
  | useAsSampled => some .sampled
  | useAsStorage | mipViews _ => some .storage
  | view | pointCursor _ | advanceCursor | setAutoAdvance _ | handle | acquire _ => none

/-- Whether a call succeeds. -/
def succeeds (c : Call) (l : Live Texture) : Bool := (outcome c.action l).isOk

end Call

/-- What calls leave that are made one after the other, whether they succeed or fail. -/
def afterCalls (cs : List Call) (l : Live Texture) : Live Texture :=
  cs.foldl (fun l c => after c.action l) l

/-- The calls of a sequence that succeed. -/
def successes : List Call → Live Texture → List Call
  | [], _ => []
  | c :: cs, l =>
    let others := successes cs (after c.action l)
    if c.succeeds l then c :: others else others

/-- The selection of the last call of a sequence that succeeds and selects something. -/
def lastSelection (cs : List Call) (l : Live Texture) : Option Selection :=
  ((successes cs l).filterMap Call.selects).getLast?

/-! ## Kept views -/

/-- What a kept view is for. -/
inductive Slot where
  | target (layer : Nat)
  | sampled
  | storage (mip : Nat)
  deriving DecidableEq

/-- The slot that is read under a selection, given the cursor. -/
def Selection.slot (cursor : Nat) : Selection → Slot
  | target layer => .target layer
  | sampled => .sampled
  | storage => .storage cursor

/-- A view for a slot, of a device texture: of one mip of the layer, of all of it, or of one mip of all
layers. -/
def ShowsSlot (t : Texture) (d : Device) (image : Nat) : Slot → View → Prop
  | .target layer => t.ShowsLayer d image layer
  | .sampled => t.ShowsAll d image
  | .storage mip => t.ShowsMip d image mip

theorem ShowsSlot.mono {d' : Device} {s : Slot} (h : t.ShowsSlot d image s v)
    (hd : d.trace <+: d'.trace) : t.ShowsSlot d' image s v := by
  cases s <;> exact Device.HasView.mono h hd

/-- The view that a texture keeps in a slot. -/
def keptView (t : Texture) : Slot → Option View
  | .target layer => t.targetViews.lookup layer
  | .sampled => t.sampledView
  | .storage mip => (t.storageViews.getD [])[mip]?

/-- What is selected at the moment. -/
def selection (t : Texture) : Option Selection :=
  match t.mode with
  | .none => none
  | .target => some (.target t.targetLayer)
  | .sampled => some .sampled
  | .storage => some .storage

/-- The slot that is read at the moment. -/
def slot? (t : Texture) : Option Slot := t.selection.map (Selection.slot t.cursor)

/-! ## Changes -/

/-- A change that a call makes to a texture that is no surface. -/
inductive Change : Live Texture → Live Texture → Prop
  | refresh {p : SyncPoint} {l l' : Live Texture} (h : Refresh p l l') : Change l l'
  | attach {l l' : Live Texture} (h : Attach l l') : Change l l'
  | keepSampled {l : Live Texture} {image : Nat} (h : l.object.image? l.device = some image)
      (hn : l.object.sampledView = none) : Change l (keepSampled image l)
  | keepStorage {l : Live Texture} {image : Nat} (h : l.object.image? l.device = some image)
      (hn : l.object.storageViews = none) : Change l (keepStorage image l)
  | sampled {l : Live Texture} (hv : l.object.sampledView.isSome) :
      Change l { l with object := { l.object with mode := .sampled } }
  | storage {l : Live Texture} (hv : l.object.storageViews.isSome) :
      Change l { l with object := { l.object with mode := .storage } }
  | point {l : Live Texture} (level : Nat) : Change l { l with object := l.object.pointCursor level }
  | setAutoAdvance {l : Live Texture} (enabled : Bool) :
      Change l { l with object := l.object.setAutoAdvance enabled }

theorem Change.advance : Change l { l with object := l.object.advanceCursor } :=
  .point (l.object.cursor + 1)

theorem handle_changes : Runs Change handle := fun l =>
  (handle_refreshes .before l).mono fun _ _ => .refresh

theorem useAsSampled_changes (hk : l.object.kind ≠ .surface) : RunsFrom Change useAsSampled l := by
  obtain ⟨-, h⟩ | ⟨-, ⟨hv, h⟩ | ⟨-, hn, image, l₁, hl, h⟩⟩ := useAsSampled_cases l
  · exact .of_after (after_error h) .refl
  · exact .of_after (after_ok h) (.single (.sampled (hv.resolve_left hk)))
  · have hfirst : ReflTransGen Change l l₁ := handle_changes.of_eq_ok hl
    obtain ⟨himage, rfl | ⟨-, -, rfl⟩⟩ := handle_eq_ok hl
    all_goals
      exact .of_after (after_ok h) ((hfirst.tail (.keepSampled himage hn)).tail (.sampled rfl))

theorem useAsStorage_changes : Runs Change useAsStorage := fun l => by
  obtain ⟨-, h⟩ | ⟨-, ⟨hv, h⟩ | ⟨-, -, h⟩ | ⟨hn, image, l₁, hl, h⟩⟩ := useAsStorage_cases l
  · exact .of_after (after_error h) .refl
  · exact .of_after (after_ok h) (.single (.storage hv))
  · exact .of_after (after_error h) .refl
  · have hfirst : ReflTransGen Change l l₁ := handle_changes.of_eq_ok hl
    obtain ⟨himage, rfl | ⟨-, -, rfl⟩⟩ := handle_eq_ok hl
    all_goals
      exact .of_after (after_ok h) ((hfirst.tail (.keepStorage himage hn)).tail (.storage rfl))

/-- Reading the storage view moves the cursor on, if auto-advance is on. -/
theorem after_view_of_storage (hm : l.object.mode = .storage) : after view l = advanced l := by
  unfold after
  rw [view_apply, hm]
  simp only [storageView_apply]
  cases (l.object.storageViews.getD [])[l.object.cursor]? <;> rfl

/-- Off the surface, reading the view changes nothing but the cursor, and that only in storage
mode. -/
theorem after_view (hk : l.object.kind ≠ .surface) :
    after view l = if l.object.mode = .storage then advanced l else l := by
  by_cases hm : l.object.mode = .storage
  · rw [if_pos hm, after_view_of_storage hm]
  rw [if_neg hm]
  unfold after
  rw [view_apply]
  cases h : l.object.mode with
  | none => rfl
  | target =>
    unfold targetView
    simp only [Action.object_bind, if_neg hk]
    cases l.object.targetViews.lookup l.object.targetLayer <;> rfl
  | sampled =>
    unfold sampledViewNow
    simp only [Action.object_bind, if_neg hk]
    cases l.object.sampledView <;> rfl
  | storage => exact absurd h hm

theorem view_changes (hk : l.object.kind ≠ .surface) : RunsFrom Change view l := by
  refine .of_after (after_view hk) ?_
  unfold advanced
  split
  · split
    · exact .single .advance
    · exact .refl
  · exact .refl

/-- Whatever is called, only such changes are made. -/
theorem Call.changes (c : Call) (hk : l.object.kind ≠ .surface) : RunsFrom Change c.action l := by
  cases c with
  | useAsTarget layer => exact (useAsTarget_attaches layer l).mono fun _ _ => .attach
  | useAsSampled => exact useAsSampled_changes hk
  | useAsStorage => exact useAsStorage_changes l
  | mipViews start =>
    have hviews : RunsFrom Change (Texture.mipViews start) l :=
      (useAsStorage_changes l).bind fun _ _ _ => .object .refl
    exact hviews.bind fun _ _ _ => .refl
  | view => exact (view_changes hk).bind fun _ _ _ => .refl
  | pointCursor level => exact .single (.point level)
  | advanceCursor => exact .single .advance
  | setAutoAdvance enabled => exact .single (.setAutoAdvance enabled)
  | handle => exact (handle_changes l).bind fun _ _ _ => .refl
  | acquire p => exact (acquire_refreshes p l).mono fun _ _ => .refresh

/-! ## The invariant -/

/-- A texture without what calls change on it. -/
def form (t : Texture) : Texture :=
  { t.bare with handler := none, targetLayer := 0, targetViews := [], autoAdvance := false }

/-- What the form of a texture still shows is the same of textures of the same form. -/
theorem field_of_form {α : Type} {t' : Texture} (f : Texture → α) (hf : ∀ t, f t.form = f t)
    (h : t'.form = t.form) : f t' = f t := by
  rw [← hf t', h, hf]

/-- A texture and its device, after calls on a texture `t` without device objects on a device `d`.
Since then `new` has been appended to the trace and the views `made` have been made, each for its
slot: they are the views that the texture keeps, and the one that is selected is among them. -/
structure Tracked (t : Texture) (d : Device) (l : Live Texture) (new : List Event)
    (made : List (Slot × View)) : Prop where
  form : l.object.form = t.form
  cursor : l.object.cursor < t.mips
  length : ∀ vs, l.object.storageViews = some vs → vs.length = t.mips
  trace : l.device.trace = d.trace ++ new
  textures : new.filterMap Event.texture? =
    (l.object.device.map fun image => (image, t.request)).toList
  views : new.filterMap Event.view? = made.map fun p => (t.label, p.2)
  nodup : (made.map Prod.fst).Nodup
  kept : ∀ s v, l.object.keptView s = some v ↔ (s, v) ∈ made
  shows : ∀ p ∈ made, ∃ image, l.object.device = some image ∧ t.ShowsSlot l.device image p.1 p.2
  selected : ∀ s, l.object.slot? = some s → (l.object.keptView s).isSome

namespace Tracked

variable {new : List Event} {made : List (Slot × View)}

/-- A change of mode, cursor or handler: the kept views and the device texture stay, and what is
appended to the trace makes neither. -/
theorem same (h : Tracked t d l new made) (es : List Event)
    (htrace : l'.device.trace = l.device.trace ++ es)
    (hes : ∀ e ∈ es, e.texture? = none ∧ e.view? = none) (hform : l'.object.form = l.object.form)
    (hdevice : l'.object.device = l.object.device)
    (hkept : l'.object.keptView = l.object.keptView)
    (hviews : l'.object.storageViews = l.object.storageViews) (hcursor : l'.object.cursor < t.mips)
    (hslot : ∀ s, l'.object.slot? = some s → (l.object.keptView s).isSome) :
    ∃ es added, Tracked t d l' (new ++ es) (made ++ added) := by
  refine ⟨es, [], ?_⟩
  rw [List.append_nil]
  exact {
    form := hform.trans h.form
    cursor := hcursor
    length := hviews ▸ h.length
    trace := by rw [htrace, h.trace, List.append_assoc]
    textures := by
      rw [List.filterMap_append, List.filterMap_eq_nil_iff.2 fun e he => (hes e he).1,
        List.append_nil, h.textures, hdevice]
    views := by
      rw [List.filterMap_append, List.filterMap_eq_nil_iff.2 fun e he => (hes e he).2,
        List.append_nil, h.views]
    nodup := h.nodup
    kept := hkept ▸ h.kept
    shows := fun p hp => by
      obtain ⟨image, hi, hshows⟩ := h.shows p hp
      exact ⟨image, hdevice.trans hi, hshows.mono ⟨es, htrace.symm⟩⟩
    selected := fun s hs => hkept ▸ hslot s hs }

/-- The device texture is made: no view has been made yet. -/
theorem make (h : Tracked t d l new made) (hn : l.object.device = none) :
    ∃ es added, Tracked t d (Texture.made l) (new ++ es) (made ++ added) := by
  have hrequest : l.object.request = t.request := field_of_form request (fun _ => rfl) h.form
  have hnone : ∀ p ∈ made, False := fun p hp => by
    obtain ⟨image, hi, -⟩ := h.shows p hp
    exact nomatch hn.symm.trans hi
  have htextures : new.filterMap Event.texture? = [] := by rw [h.textures, hn]; rfl
  refine ⟨.textureCreated l.device.nextSerial l.object.request ::
    l.object.initialWrites.map (l.object.written l.device.nextSerial), [], ?_⟩
  rw [List.append_nil]
  exact {
    form := h.form
    cursor := h.cursor
    length := h.length
    trace := by rw [trace_made, h.trace, List.append_assoc]
    textures := by
      rw [List.filterMap_append, htextures, hrequest]
      simp [Texture.made, Event.texture?, written, List.filterMap_map, Function.comp_def]
    views := by
      rw [List.filterMap_append, h.views]
      simp [Event.view?, written, List.filterMap_cons, List.filterMap_map, Function.comp_def]
    nodup := h.nodup
    kept := h.kept
    shows := fun p hp => (hnone p hp).elim
    selected := h.selected }

/-- Views are made for empty slots and kept. -/
theorem keep (h : Tracked t d l new made) (added : List (Slot × View))
    (htrace : l'.device.trace = l.device.trace ++ added.map fun p => .viewCreated t.label p.2)
    (hi : l.object.device = some image) (hdevice : l'.object.device = some image)
    (hform : l'.object.form = l.object.form) (hslot : l'.object.slot? = l.object.slot?)
    (hcursor : l'.object.cursor = l.object.cursor)
    (hlength : ∀ vs, l'.object.storageViews = some vs → vs.length = t.mips)
    (hnodup : (added.map Prod.fst).Nodup) (hfresh : ∀ p ∈ added, l.object.keptView p.1 = none)
    (hshows : ∀ p ∈ added, t.ShowsSlot l'.device image p.1 p.2)
    (hkept : ∀ s v, l'.object.keptView s = some v ↔ l.object.keptView s = some v ∨ (s, v) ∈ added) :
    ∃ es added, Tracked t d l' (new ++ es) (made ++ added) := by
  refine ⟨added.map fun p => .viewCreated t.label p.2, added, ?_⟩
  exact {
    form := hform.trans h.form
    cursor := hcursor ▸ h.cursor
    length := hlength
    trace := by rw [htrace, h.trace, List.append_assoc]
    textures := by
      rw [List.filterMap_append, h.textures, hi, hdevice]
      simp [Event.texture?, List.filterMap_map]
    views := by
      rw [List.filterMap_append, h.views]
      simp [Event.view?, List.filterMap_map, Function.comp_def]
    nodup := by
      rw [List.map_append, List.nodup_append]
      refine ⟨h.nodup, hnodup, ?_⟩
      rintro s hs s' hs' rfl
      -- A slot of both lists would be kept before its view was made.
      obtain ⟨⟨s, v⟩, hp, rfl⟩ := List.mem_map.1 hs
      obtain ⟨p', hp', heq⟩ := List.mem_map.1 hs'
      have hnone := hfresh p' hp'
      rw [heq, (h.kept s v).2 hp] at hnone
      cases hnone
    kept := fun s v => by rw [hkept, List.mem_append, h.kept]
    shows := fun p hp => by
      rcases List.mem_append.1 hp with hp | hp
      · obtain ⟨image', hi', hshows'⟩ := h.shows p hp
        cases hi'.symm.trans hi
        exact ⟨_, hdevice, hshows'.mono ⟨_, htrace.symm⟩⟩
      · exact ⟨image, hdevice, hshows p hp⟩
    selected := fun s hs => by
      obtain ⟨v, hv⟩ := Option.isSome_iff_exists.1 (h.selected s (hslot ▸ hs))
      exact Option.isSome_iff_exists.2 ⟨v, (hkept s v).2 (.inl hv)⟩ }

/-- Once the storage views are there, there is one for each mip. -/
theorem isSome_storage (h : Tracked t d l new made) (hv : l.object.storageViews.isSome)
    {mip : Nat} (hm : mip < t.mips) : (l.object.keptView (.storage mip)).isSome := by
  obtain ⟨vs, hvs⟩ := Option.isSome_iff_exists.1 hv
  simp [keptView, hvs, h.length vs hvs, hm]

/-- Wherever the cursor points, the view of the selection is there. -/
theorem isSome_selected (h : Tracked t d l new made) {s : Selection}
    (hs : l.object.selection = some s) {mip : Nat} (hm : mip < t.mips) :
    (l.object.keptView (s.slot mip)).isSome := by
  have hnow := h.selected (s.slot l.object.cursor) (by rw [slot?, hs]; rfl)
  cases s with
  | target | sampled => exact hnow
  | storage =>
    refine h.isSome_storage ?_ hm
    cases hv : l.object.storageViews with
    | none => simp [Selection.slot, keptView, hv] at hnow
    | some vs => rfl

theorem keepTarget {layer : Nat} (h : Tracked t d l new made) (hi : l.object.device = some image)
    (hn : l.object.targetViews.lookup layer = none) :
    ∃ es added, Tracked t d (Texture.keepTarget image layer l) (new ++ es) (made ++ added) := by
  have hlabel := field_of_form Texture.label (fun _ => rfl) h.form
  refine h.keep
    [(.target layer, (l.device.createView l.object.label image (l.object.targetRange layer)).1)]
    (by rw [← hlabel]; rfl) hi hi rfl rfl rfl h.length (by simp) (by simpa [keptView] using hn)
    (List.forall_mem_singleton.2 ?_) fun s v => ?_
  · rw [← field_of_form ShowsSlot (fun _ => rfl) h.form]
    exact showsLayer_of_hasView Device.hasView_createView
  cases s with
  | target layer' =>
    by_cases heq : layer' = layer
    · subst heq
      simp [keptView, Texture.keepTarget, List.lookup_append, hn, eq_comm]
    · simp [keptView, Texture.keepTarget, List.lookup_append, List.lookup, beq_false_of_ne heq, heq]
  | sampled | storage => simp [keptView, Texture.keepTarget]

theorem keepSampled (h : Tracked t d l new made) (hi : l.object.device = some image)
    (hn : l.object.sampledView = none) :
    ∃ es added, Tracked t d (Texture.keepSampled image l) (new ++ es) (made ++ added) := by
  have hlabel := field_of_form Texture.label (fun _ => rfl) h.form
  refine h.keep
    [(.sampled, (l.device.createView l.object.label image l.object.sampledRange).1)]
    (by rw [← hlabel]; rfl) hi hi rfl rfl rfl h.length (by simp) (by simpa [keptView] using hn)
    (List.forall_mem_singleton.2 ?_) fun s v => ?_
  · rw [← field_of_form ShowsSlot (fun _ => rfl) h.form]
    exact showsAll_of_hasView Device.hasView_createView
  · cases s <;> simp [keptView, Texture.keepSampled, hn, eq_comm]

theorem keepStorage (h : Tracked t d l new made) (hi : l.object.device = some image)
    (hn : l.object.storageViews = none) :
    ∃ es added, Tracked t d (Texture.keepStorage image l) (new ++ es) (made ++ added) := by
  have hlabel := field_of_form Texture.label (fun _ => rfl) h.form
  have hmips := field_of_form mips (fun _ => rfl) h.form
  generalize hvs : (l.device.createViews l.object.label image l.object.storageRanges).1 = vs
  have hviews : List.Forall₂ (t.ShowsMip (Texture.keepStorage image l).device image)
      (List.range t.mips) vs := by
    rw [← hvs, ← hmips, ← field_of_form ShowsMip (fun _ => rfl) h.form]
    exact showsMip_createViews
  have hlength : vs.length = t.mips := by simpa using hviews.length_eq.symm
  have hviews' : (Texture.keepStorage image l).object.storageViews = some vs := congrArg some hvs
  -- The new slots are the mips in order, each with the view that was made for it.
  refine h.keep (vs.zipIdx.map fun p => (.storage p.2, p.1)) ?_ hi hi rfl rfl rfl ?_ ?_ ?_ ?_ ?_
  · refine Device.trace_createViews.trans ?_
    rw [hvs, hlabel, List.map_map]
    conv_lhs => rw [← List.zipIdx_map_fst 0 vs, List.map_map]
    rfl
  · intro vs' h'
    cases hviews'.symm.trans h'
    exact hlength
  · have hslots : (vs.zipIdx.map fun p => (Slot.storage p.2, p.1)).map Prod.fst =
        (List.range' 0 vs.length).map Slot.storage := by
      rw [← List.zipIdx_map_snd, List.map_map, List.map_map]
      rfl
    rw [hslots]
    exact (List.nodup_range' 1).map fun _ _ => Slot.storage.inj
  · rintro p hp
    obtain ⟨⟨v, i⟩, -, rfl⟩ := List.mem_map.1 hp
    simp [keptView, hn]
  · intro p hp
    obtain ⟨⟨v, mip⟩, hv, rfl⟩ := List.mem_map.1 hp
    have hget : vs[mip]? = some v := List.mem_zipIdx_iff_getElem?.1 hv
    obtain ⟨hlt, rfl⟩ := List.getElem?_eq_some_iff.1 hget
    simpa [ShowsSlot] using hviews.get (by simpa [← hlength]) hlt
  · intro s v
    cases s with
    | storage mip => simp [keptView, hviews', hn, List.mem_zipIdx_iff_getElem?]
    | target | sampled => simp [keptView, Texture.keepStorage]

end Tracked

/-- Every change keeps the invariant, with more of a trace and more views. -/
theorem Change.tracked {new : List Event} {made : List (Slot × View)} (h : Change l l')
    (hk : t.kind ≠ .surface) (hl : Tracked t d l new made) :
    ∃ es added, Tracked t d l' (new ++ es) (made ++ added) := by
  have hkind : l.object.kind ≠ .surface :=
    field_of_form Texture.kind (fun _ => rfl) hl.form ▸ hk
  have hmips : l.object.mips = t.mips := field_of_form Texture.mips (fun _ => rfl) hl.form
  have hnil : l.device.trace = l.device.trace ++ [] := (List.append_nil _).symm
  cases h with
  | refresh h =>
    cases h with
    | make _ hn => exact hl.make hn
    | write =>
      refine hl.same [_] rfl ?_ rfl rfl rfl rfl hl.cursor hl.selected
      simp [Event.texture?, Event.view?]
    | ask =>
      refine hl.same [_] rfl ?_ rfl rfl rfl rfl hl.cursor hl.selected
      simp [Event.texture?, Event.view?]
  | attach h =>
    cases h with
    | make _ hn => exact hl.make hn
    | keep _ _ hi hn => exact hl.keepTarget (image?_of_ne hkind ▸ hi) hn
    | select _ _ hv =>
      refine hl.same [] hnil (by simp) rfl rfl rfl rfl hl.cursor fun s hs => ?_
      cases hs
      exact hv.resolve_left hkind
  | keepSampled hi hn => exact hl.keepSampled (image?_of_ne hkind ▸ hi) hn
  | keepStorage hi hn => exact hl.keepStorage (image?_of_ne hkind ▸ hi) hn
  | sampled hv =>
    refine hl.same [] hnil (by simp) rfl rfl rfl rfl hl.cursor fun s hs => ?_
    cases hs
    exact hv
  | storage hv =>
    refine hl.same [] hnil (by simp) rfl rfl rfl rfl hl.cursor fun s hs => ?_
    cases hs
    exact hl.isSome_storage hv hl.cursor
  | point level =>
    have hlt : level % l.object.mips < t.mips := by
      rw [hmips]
      exact Nat.mod_lt _ (Nat.zero_lt_of_lt hl.cursor)
    refine hl.same [] hnil (by simp) rfl rfl rfl rfl hlt fun s hs => ?_
    obtain ⟨selected, hselected, rfl⟩ := Option.map_eq_some_iff.1 hs
    exact hl.isSome_selected hselected hlt
  | setAutoAdvance enabled =>
    exact hl.same [] hnil (by simp) rfl rfl rfl rfl hl.cursor hl.selected

theorem Change.form (h : Change l l') : l'.object.form = l.object.form := by
  cases h with
  | refresh h => cases h <;> rfl
  | attach h => cases h <;> rfl
  | keepSampled | keepStorage | sampled | storage | point | setAutoAdvance => rfl

theorem form_of_changes (h : ReflTransGen Change l l') : l'.object.form = l.object.form := by
  induction h with
  | refl => rfl
  | tail _ h ih => exact h.form.trans ih

theorem Call.kind (c : Call) (hk : l.object.kind ≠ .surface) :
    (after c.action l).object.kind ≠ .surface :=
  field_of_form Texture.kind (fun _ => rfl) (form_of_changes (c.changes hk)) ▸ hk

theorem tracked_of_changes {new : List Event} {made : List (Slot × View)}
    (h : ReflTransGen Change l l') (hk : t.kind ≠ .surface) (hl : Tracked t d l new made) :
    ∃ es added, Tracked t d l' (new ++ es) (made ++ added) := by
  induction h with
  | refl => exact ⟨[], [], by simpa using hl⟩
  | tail _ h ih =>
    obtain ⟨es, added, hl⟩ := ih
    obtain ⟨es', added', hl'⟩ := h.tracked hk hl
    exact ⟨es ++ es', added ++ added', by simpa using hl'⟩

/-- Whatever calls are made, they keep the invariant. -/
theorem tracked_afterCalls {new : List Event} {made : List (Slot × View)} (cs : List Call)
    (hk : t.kind ≠ .surface) (hl : Tracked t d l new made) :
    ∃ es added, Tracked t d (afterCalls cs l) (new ++ es) (made ++ added) := by
  induction cs generalizing l new made with
  | nil => exact ⟨[], [], by simpa [afterCalls] using hl⟩
  | cons c cs ih =>
    have hkind : l.object.kind ≠ .surface := field_of_form Texture.kind (fun _ => rfl) hl.form ▸ hk
    obtain ⟨es, added, hl⟩ := tracked_of_changes (c.changes hkind) hk hl
    obtain ⟨es', added', hl'⟩ := ih hl
    exact ⟨es ++ es', added ++ added', by simpa [afterCalls] using hl'⟩

/-! ## Selections -/

/-- A call that selects something and fails changes nothing. -/
theorem Call.eq_of_error {c : Call} {s : Selection} {e : ResourceError} (hs : c.selects = some s)
    (h : c.action l = .error e l') : l' = l := by
  have hstorage (h : Texture.useAsStorage l = .error e l') : l' = l := by
    obtain ⟨-, heq⟩ | ⟨-, ⟨-, heq⟩ | ⟨-, -, heq⟩ | ⟨-, image, l₁, -, heq⟩⟩ := useAsStorage_cases l
    all_goals
      rw [heq] at h
      cases h
    all_goals rfl
  cases c with
  | useAsTarget layer =>
    change Texture.useAsTarget layer l = _ at h
    obtain ⟨e, -, heq⟩ | ⟨-, -, ⟨-, heq⟩ | ⟨-, -, image, l₁, -, heq⟩⟩ := useAsTarget_cases layer l
    all_goals
      rw [heq] at h
      cases h
    rfl
  | useAsSampled =>
    change Texture.useAsSampled l = _ at h
    obtain ⟨-, heq⟩ | ⟨-, ⟨-, heq⟩ | ⟨-, -, image, l₁, -, heq⟩⟩ := useAsSampled_cases l
    all_goals
      rw [heq] at h
      cases h
    rfl
  | useAsStorage => exact hstorage h
  | mipViews start =>
    obtain h | ⟨_, _, -, h⟩ := bind_eq_error h
    · obtain h | ⟨_, _, -, h⟩ := bind_eq_error h
      · exact hstorage h
      · cases h
    · cases h
  | view | pointCursor | advanceCursor | setAutoAdvance | handle | acquire => cases hs

/-- A call that selects something and succeeds has selected it. -/
theorem Call.selection_of_ok {c : Call} {s : Selection} {u : Unit} (hs : c.selects = some s)
    (h : c.action l = .ok u l') : l'.object.selection = some s := by
  cases c with
  | useAsTarget layer =>
    cases hs
    obtain ⟨hmode, hlayer, -⟩ := useAsTarget_eq_ok h
    rw [selection, hmode, hlayer]
  | useAsSampled =>
    cases hs
    rw [selection, (useAsSampled_eq_ok h).2.1]
  | useAsStorage =>
    cases hs
    rw [selection, (useAsStorage_eq_ok h).2.1]
  | mipViews start =>
    cases hs
    obtain ⟨m, l₁, h, hpure⟩ := bind_eq_ok h
    cases hpure
    obtain ⟨_, l₁, hstorage, hobject⟩ := bind_eq_ok h
    cases hobject
    rw [selection, (useAsStorage_eq_ok hstorage).2.1]
  | view | pointCursor | advanceCursor | setAutoAdvance | handle | acquire => cases hs

/-- A call that selects nothing leaves the selection. -/
theorem Call.selection_of_none {c : Call} (hs : c.selects = none) (hk : l.object.kind ≠ .surface) :
    (after c.action l).object.selection = l.object.selection := by
  have hidle {p : SyncPoint} {l' : Live Texture} (h : ReflTransGen (Refresh p) l l') :
      l'.object.selection = l.object.selection :=
    (congrArg Texture.selection (idle_of_refreshes h) :
      l'.object.idle.selection = l.object.idle.selection)
  cases c with
  | useAsTarget | useAsSampled | useAsStorage | mipViews => cases hs
  | view =>
    rw [action, after_discard, after_view hk]
    unfold advanced
    split
    · split <;> rfl
    · rfl
  | handle =>
    rw [action, after_discard]
    exact hidle (handle_refreshes .before l)
  | acquire p => exact hidle (acquire_refreshes p l)
  | pointCursor | advanceCursor | setAutoAdvance => rfl

/-- What is selected after a call. -/
theorem Call.selection_after (c : Call) (hk : l.object.kind ≠ .surface) :
    (after c.action l).object.selection =
      (if c.succeeds l then c.selects else none).or l.object.selection := by
  unfold succeeds
  cases hs : c.selects with
  | none => simpa using c.selection_of_none hs hk
  | some s =>
    cases h : c.action l with
    | ok u l' => rw [after_ok h, outcome_ok h, selection_of_ok hs h]; rfl
    | error e l' => rw [after_error h, outcome_error h, eq_of_error hs h]; rfl

theorem successes_cons (c : Call) (cs : List Call) : successes (c :: cs) l =
    if c.succeeds l then c :: successes cs (after c.action l)
    else successes cs (after c.action l) := rfl

theorem lastSelection_cons (c : Call) (cs : List Call) : lastSelection (c :: cs) l =
    (lastSelection cs (after c.action l)).or (if c.succeeds l then c.selects else none) := by
  unfold lastSelection
  rw [successes_cons]
  cases c.succeeds l with
  | false => simp
  | true => cases hs : c.selects <;> simp [hs, List.getLast?_cons, Option.or_some]

/-- What is selected after a sequence of calls. -/
theorem selection_afterCalls (cs : List Call) (hk : l.object.kind ≠ .surface) :
    (afterCalls cs l).object.selection = (lastSelection cs l).or l.object.selection := by
  induction cs generalizing l with
  | nil => rfl
  | cons c cs ih =>
    rw [lastSelection_cons, Option.or_assoc, ← c.selection_after hk]
    exact ih (c.kind hk)

/-! ## Reading the view -/

/-- With nothing selected, reading the view fails. -/
theorem outcome_view_of_none (hs : l.object.selection = none) :
    outcome view l = .error (.usageNotDeclared l.object.id) := by
  have hm : l.object.mode = .none := by
    unfold selection at hs
    cases hm : l.object.mode <;> simp [hm] at hs ⊢
  exact outcome_error (by rw [view_apply, hm])

/-- Off the surface, reading the view yields the one that is kept in the selected slot. -/
theorem outcome_view_of_kept {s : Slot} (hk : l.object.kind ≠ .surface)
    (hs : l.object.slot? = some s) (hv : l.object.keptView s = some v) :
    outcome view l = .ok v := by
  unfold slot? selection at hs
  unfold outcome
  rw [view_apply]
  cases hm : l.object.mode with
  | none => simp [hm] at hs
  | target =>
    simp only [hm, Option.map_some, Option.some.injEq] at hs
    subst hs
    unfold targetView
    simp only [Action.object_bind, if_neg hk, show l.object.targetViews.lookup _ = some v from hv]
    rfl
  | sampled =>
    simp only [hm, Option.map_some, Option.some.injEq] at hs
    subst hs
    simp only [sampledViewNow_of_some hk hv]
  | storage =>
    simp only [hm, Option.map_some, Option.some.injEq] at hs
    subst hs
    simp only [storageView_apply, show (l.object.storageViews.getD [])[_]? = some v from hv]

namespace Tracked

variable {new new' : List Event} {made added : List (Slot × View)}

/-- A texture that has just been created has made nothing yet. -/
theorem of_create {limits : Limits} {surfaceFormat : TextureFormat} {kind : TextureKind}
    {layers : Nat} {desc : TextureDesc} {id : ResourceId}
    (h : create limits surfaceFormat kind layers desc id = .ok t) : Tracked t d ⟨t, d⟩ [] [] := by
  obtain ⟨-, -, hmips, hcursor, hdevice, hsampled, hstorage, htarget, hmode, -⟩ :=
    create_eq_ok h
  exact {
    form := rfl
    cursor := hcursor ▸ hmips
    length := fun vs hvs => nomatch hstorage.symm.trans hvs
    trace := (List.append_nil _).symm
    textures := by simp [hdevice]
    views := rfl
    nodup := List.nodup_nil
    kept := fun s v => by cases s <;> simp [keptView, htarget, hsampled, hstorage]
    shows := by simp
    selected := fun s hs => by simp [slot?, selection, hmode] at hs }

/-- The selected view is read, and shows the selected slot of the device texture. -/
theorem exists_view (h : Tracked t d l new made) (hk : t.kind ≠ .surface) {s : Slot}
    (hs : l.object.slot? = some s) : ∃ v image, outcome view l = .ok v ∧
      l.object.keptView s = some v ∧ l.object.device = some image ∧
      t.ShowsSlot l.device image s v := by
  have hkind : l.object.kind ≠ .surface := field_of_form Texture.kind (fun _ => rfl) h.form ▸ hk
  obtain ⟨v, hv⟩ := Option.isSome_iff_exists.1 (h.selected s hs)
  obtain ⟨image, hi, hshows⟩ := h.shows _ ((h.kept s v).1 hv)
  exact ⟨v, image, outcome_view_of_kept hkind hs hv, hv, hi, hshows⟩

/-- A view that is kept stays where it is. -/
theorem kept_later (h : Tracked t d l new made) (h' : Tracked t d l' new' (made ++ added)) {s : Slot}
    (hv : l.object.keptView s = some v) : l'.object.keptView s = some v :=
  (h'.kept s v).2 (List.mem_append_left _ ((h.kept s v).1 hv))

/-- Reading the same slot later yields the same. -/
theorem outcome_view_later (h : Tracked t d l new made) (h' : Tracked t d l' new' (made ++ added))
    (hk : t.kind ≠ .surface) (hs : l'.object.slot? = l.object.slot?) :
    outcome view l' = outcome view l := by
  cases hslot : l.object.slot? with
  | none =>
    have hnone := Option.map_eq_none_iff.1 hslot
    have hnone' := Option.map_eq_none_iff.1 (hs.trans hslot)
    rw [outcome_view_of_none hnone, outcome_view_of_none hnone',
      field_of_form Texture.id (fun _ => rfl) (h'.form.trans h.form.symm)]
  | some s =>
    obtain ⟨v, -, hv, hkept, -⟩ := h.exists_view hk hslot
    obtain ⟨v', -, hv', hkept', -⟩ := h'.exists_view hk (hs.trans hslot)
    cases (h.kept_later h' hkept).symm.trans hkept'
    rw [hv, hv']

end Tracked

section Created

variable {limits : Limits} {surfaceFormat : TextureFormat} {kind : TextureKind} {layers : Nat}
  {desc : TextureDesc} {id : ResourceId}

theorem lastSelection_eq_none_iff (cs : List Call) :
    lastSelection cs l = none ↔ ∀ c ∈ successes cs l, c.selects = none := by
  simp [lastSelection]

/-- After calls on a texture that has just been created, the slot of the last selection is selected. -/
theorem slot?_of_create (hk : t.kind ≠ .surface)
    (ht : create limits surfaceFormat kind layers desc id = .ok t) (cs : List Call) :
    (afterCalls cs ⟨t, d⟩).object.slot? =
      (lastSelection cs ⟨t, d⟩).map (Selection.slot (afterCalls cs ⟨t, d⟩).object.cursor) := by
  obtain ⟨-, -, -, -, -, -, -, -, hmode, -⟩ := create_eq_ok ht
  have hnone : t.selection = none := by
    rw [selection, hmode]
  rw [slot?, selection_afterCalls cs hk, hnone, Option.or_none]

/-- Reading the view after calls on a texture that has just been created fails if nothing has been
selected, and yields the view of the last selection otherwise. -/
theorem view_of_create (hk : t.kind ≠ .surface)
    (ht : create limits surfaceFormat kind layers desc id = .ok t) (d : Device) (cs : List Call) :
    (lastSelection cs ⟨t, d⟩ = none ∧
      outcome view (afterCalls cs ⟨t, d⟩) = .error (.usageNotDeclared id)) ∨
    ∃ s v image, lastSelection cs ⟨t, d⟩ = some s ∧ outcome view (afterCalls cs ⟨t, d⟩) = .ok v ∧
      (afterCalls cs ⟨t, d⟩).object.device = some image ∧
      t.ShowsSlot (afterCalls cs ⟨t, d⟩).device image
        (s.slot (afterCalls cs ⟨t, d⟩).object.cursor) v := by
  obtain ⟨new, made, hl⟩ := tracked_afterCalls (d := d) cs hk (.of_create ht)
  have hslot := slot?_of_create (d := d) hk ht cs
  cases hlast : lastSelection cs ⟨t, d⟩ with
  | none =>
    rw [hlast] at hslot
    refine .inl ⟨rfl, ?_⟩
    rw [outcome_view_of_none (Option.map_eq_none_iff.1 hslot),
      field_of_form Texture.id (fun _ => rfl) hl.form, (create_eq_ok ht).1]
  | some s =>
    rw [hlast] at hslot
    obtain ⟨v, image, hv, -, hi, hview⟩ := hl.exists_view hk hslot
    exact .inr ⟨s, v, image, rfl, hv, hi, hview⟩

/-- **The views of a texture that is no surface, over every sequence of calls from its creation.**

Reading the view fails exactly as long as no call has succeeded that selects something, and with no
other error than that. Afterwards it yields the view of the last selection: of one mip of the selected
layer, of all mips and layers, or of all layers of the mip at the cursor. A call that selects something
and fails changes nothing. Reading again in the same slot yields the same view. The device texture is
made at most once, and the views that are made are those that are kept, one for each slot, and each
shows its slot. -/
theorem calls_spec (hk : kind ≠ .surface)
    (ht : create limits surfaceFormat kind layers desc id = .ok t) (d : Device) (cs : List Call) :
    let l := afterCalls cs ⟨t, d⟩
    ((∃ e, outcome view l = .error e) ↔ ∀ c ∈ successes cs ⟨t, d⟩, c.selects = none) ∧
    (∀ e, outcome view l = .error e → e = .usageNotDeclared id) ∧
    (∀ s, lastSelection cs ⟨t, d⟩ = some s → ∃ v image, outcome view l = .ok v ∧
      l.object.device = some image ∧ t.ShowsSlot l.device image (s.slot l.object.cursor) v) ∧
    l.object.cursor < t.mips ∧
    (∀ (c : Call) (e : ResourceError) (l' : Live Texture), c.selects ≠ none →
      c.action l = .error e l' → l' = l) ∧
    (∀ cs', let l' := afterCalls cs' l
      (lastSelection (cs ++ cs') ⟨t, d⟩).map (Selection.slot l'.object.cursor) =
          (lastSelection cs ⟨t, d⟩).map (Selection.slot l.object.cursor) →
        outcome view l' = outcome view l) ∧
    ∃ (new : List Event) (made : List (Slot × View)), l.device.trace = d.trace ++ new ∧
      new.filterMap Event.texture? =
        (l.object.device.map fun image => (image, t.request)).toList ∧
      new.filterMap Event.view? = made.map (fun p => (t.label, p.2)) ∧
      (made.map Prod.fst).Nodup ∧
      (∀ s v, l.object.keptView s = some v ↔ (s, v) ∈ made) ∧
      ∀ p ∈ made, ∃ image, l.object.device = some image ∧ t.ShowsSlot l.device image p.1 p.2 := by
  intro l
  have hkt : t.kind ≠ .surface := (create_eq_ok ht).2.1 ▸ hk
  obtain ⟨new, made, hl⟩ := tracked_afterCalls (d := d) cs hkt (.of_create ht)
  have hview := view_of_create hkt ht d cs
  refine ⟨?_, fun e he => ?_, fun s hs => ?_, hl.cursor, fun c e l' hc he => ?_, fun cs' h => ?_,
    new, made, hl.trace, hl.textures, hl.views, hl.nodup, hl.kept, hl.shows⟩
  · rw [← lastSelection_eq_none_iff]
    obtain ⟨hlast, hv⟩ | ⟨s, v, image, hlast, hv, -⟩ := hview
    · exact ⟨fun _ => hlast, fun _ => ⟨_, hv⟩⟩
    · exact ⟨fun ⟨e, he⟩ => (nomatch hv.symm.trans he), fun hnone => (nomatch hlast.symm.trans hnone)⟩
  · obtain ⟨-, hv⟩ | ⟨s, v, image, -, hv, -⟩ := hview
    · cases hv.symm.trans he
      rfl
    · exact nomatch hv.symm.trans he
  · obtain ⟨hlast, -⟩ | ⟨s', v, image, hlast, hv, hi, hview⟩ := hview
    · exact nomatch hlast.symm.trans hs
    · cases hlast.symm.trans hs
      exact ⟨v, image, hv, hi, hview⟩
  · obtain ⟨s, hs⟩ := Option.ne_none_iff_exists'.1 hc
    exact c.eq_of_error hs he
  · obtain ⟨es, added, hl'⟩ := tracked_afterCalls cs' hkt hl
    have happend : afterCalls (cs ++ cs') ⟨t, d⟩ = afterCalls cs' l := List.foldl_append
    have hslot' := slot?_of_create (d := d) hkt ht (cs ++ cs')
    rw [happend] at hslot'
    exact hl.outcome_view_later hl' hkt
      (hslot'.trans (h.trans (slot?_of_create hkt ht cs).symm))

end Created

namespace Mipmapped

/-- The description of a storage texture with two mips. -/
def desc : TextureDesc := { width := 4, height := 4, format := some .rgba8Unorm }

/-- The texture that is created from it. -/
def texture : Texture where
  id := ⟨7⟩
  label := none
  kind := .storage2d
  format := .rgba8Unorm
  width := 4
  height := 4
  layers := 1
  mips := 2
  samples := 1
  usage := { copySource := true, copyTarget := true, textureBinding := true, storageBinding := true }

/-- Selections that fail and succeed, and reads with auto-advance. -/
def calls : List Call :=
  [.view, .useAsTarget 0, .useAsStorage, .setAutoAdvance true, .view]

end Mipmapped

/-- After a selection that fails, one that succeeds and one read with auto-advance, the view of the
second mip is read. -/
theorem calls_mipmapped :
    create {} .bgra8Unorm .storage2d 1 Mipmapped.desc ⟨7⟩ = .ok Mipmapped.texture ∧
    successes Mipmapped.calls ⟨Mipmapped.texture, .start {}⟩ =
      [.useAsStorage, .setAutoAdvance true, .view] ∧
    ∃ v, outcome view (afterCalls Mipmapped.calls ⟨Mipmapped.texture, .start {}⟩) = .ok v ∧
      v.texture = 3 ∧ v.dimension = some .d2 ∧ v.aspect = .all ∧ v.baseMip = 1 ∧
      v.mips = some 1 ∧ v.baseLayer = 0 ∧ v.layers = some 1 := by
  have hcreate : create {} .bgra8Unorm .storage2d 1 Mipmapped.desc ⟨7⟩ = .ok Mipmapped.texture := by
    cbv
  have hlast : lastSelection Mipmapped.calls ⟨Mipmapped.texture, .start {}⟩ = some .storage := by
    cbv
  have hlater : (afterCalls Mipmapped.calls ⟨Mipmapped.texture, .start {}⟩).object.device = some 3 ∧
      (afterCalls Mipmapped.calls ⟨Mipmapped.texture, .start {}⟩).object.cursor = 1 := by cbv
  refine ⟨hcreate, by cbv, ?_⟩
  obtain ⟨v, image, hv, hi, hview⟩ :=
    (calls_spec (by decide) hcreate (.start {}) Mipmapped.calls).2.2.1 _ hlast
  rw [hlater.1] at hi
  cases hi
  rw [hlater.2] at hview
  exact ⟨v, hv, hview.texture, hview.dimension, hview.aspect, hview.baseMip, hview.mips,
    hview.baseLayer, hview.layers⟩

end Texture

end PassForge
