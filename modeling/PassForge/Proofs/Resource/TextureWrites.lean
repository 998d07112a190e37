import PassForge.Proofs.Resource.TextureCalls
import PassForge.Proofs.Resource.Updates

/-!
# Writes into a texture over sequences of calls

Whatever is called, the device gets the initial contents of a texture together with the texture itself,
and then the writes of the host that fit.

* `hostWrites` are the writes that handlers ask for in a sequence of calls, as far as they fit.
* `Filled` is the invariant: the texture and all writes into it, in order. `Filled.make` and
  `Filled.wrote` are the two steps that append to them, and `Filled.same` is about every other one.
  `Call.filled` is about one call, and `filled_afterCalls` the run lemma.
* `levelWrites_spec` is the whole statement, from the creation of the texture on.
-/

namespace PassForge

/-- Whether an event makes a texture or writes into one. -/
def Event.isTexture : Event → Bool
  | .textureCreated .. | .textureWritten .. => true
  | _ => false

namespace Texture

open Relation (ReflTransGen)

variable {l l' : Live Texture} {t : Texture} {d : Device} {image : Nat}

instance (t : Texture) (d : Device) : Decidable (t.Missing d) :=
  inferInstanceAs (Decidable (t.kind = .surface ∧ d.surface = none))

/-- The writes that a call makes for the host: those that the handler asks for up to the first one that
does not fit. -/
def Call.hostWrites (l : Live Texture) : Call → List TextureWrite
  | acquire p =>
    if l.object.Missing l.device then []
    else (Handler.wanted l.object.handler p).takeWhile fun w => w.Fits l.object
  | useAsTarget _ | useAsSampled | useAsStorage | mipViews _ | view | pointCursor _ | advanceCursor
  | setAutoAdvance _ | handle => []

/-- The writes that the calls of a sequence make for the host. -/
def hostWrites : List Call → Live Texture → List TextureWrite
  | [], _ => []
  | c :: cs, l => c.hostWrites l ++ hostWrites cs (after c.action l)

/-! ## The invariant -/

/-- A texture and its device, after calls on a texture `t` without device objects on a device `d`. Since
then `new` has been appended to the trace, and the host has made the writes `ws`. -/
structure Filled (t : Texture) (d : Device) (l : Live Texture) (new : List Event)
    (ws : List TextureWrite) : Prop where
  fixed : l.object.fixed = t.fixed
  surface : l.device.surface = d.surface
  fresh : l.object.device = none → l.object.contents = t.contents
  own : l.object.device.isSome → t.kind ≠ .surface
  host : l.object.image? l.device = none → ws = []
  trace : l.device.trace = d.trace ++ new
  events : new.filter Event.isTexture =
    (l.object.device.toList.flatMap fun image =>
      .textureCreated image t.request :: t.initialWrites.map (t.written image)) ++
    (l.object.image? l.device).toList.flatMap fun image => ws.map (t.written image)
  fits : ∀ w ∈ ws, w.Fits t

theorem filter_isTexture_written (image : Nat) (ws : List TextureWrite) :
    (ws.map (t.written image)).filter Event.isTexture = ws.map (t.written image) := by
  refine List.filter_eq_self.2 fun e he => ?_
  obtain ⟨w, -, rfl⟩ := List.mem_map.1 he
  rfl

namespace Filled

variable {new : List Event} {ws : List TextureWrite}

theorem of_create (hd : t.device = none) : Filled t d ⟨t, d⟩ [] [] where
  fixed := rfl
  surface := rfl
  fresh _ := rfl
  own h := by simp [hd] at h
  host _ := rfl
  trace := (List.append_nil _).symm
  events := by simp [hd]
  fits := List.forall_mem_nil _

/-- A change that leaves the device texture, with events that neither make a texture nor write into
one. -/
theorem same (h : Filled t d l new ws) (es : List Event) (hes : ∀ e ∈ es, e.isTexture = false)
    (htrace : l'.device.trace = l.device.trace ++ es) (hfixed : l'.object.fixed = l.object.fixed)
    (hsurface : l'.device.surface = l.device.surface) (hdevice : l'.object.device = l.object.device)
    (hcontents : l'.object.contents = l.object.contents) :
    ∃ es, Filled t d l' (new ++ es) ws := by
  have hkind : l'.object.kind = l.object.kind := (congrArg Texture.kind hfixed :)
  have himage : l'.object.image? l'.device = l.object.image? l.device := by
    rw [image?, image?, hkind, hsurface, hdevice]
  refine ⟨es, ?_⟩
  exact {
    fixed := hfixed.trans h.fixed
    surface := hsurface.trans h.surface
    fresh := by
      rw [hdevice, hcontents]
      exact h.fresh
    own := hdevice ▸ h.own
    host := himage ▸ h.host
    trace := by rw [htrace, h.trace, List.append_assoc]
    events := by
      have hnone : es.filter Event.isTexture = [] :=
        List.filter_eq_nil_iff.2 fun e he => Bool.eq_false_iff.1 (hes e he)
      rw [List.filter_append, hnone, List.append_nil, hdevice, himage]
      exact h.events
    fits := h.fits }

/-- The device texture is made, and the initial contents are written into it. -/
theorem make (h : Filled t d l new ws) (hk : l.object.kind ≠ .surface) (hn : l.object.device = none) :
    ∃ es, Filled t d (made l) (new ++ es) ws := by
  have hkind : l.object.kind = t.kind := (congrArg Texture.kind h.fixed :)
  have hformat : l.object.format = t.format := (congrArg Texture.format h.fixed :)
  have hrequest : l.object.request = t.request := (congrArg Texture.request h.fixed :)
  have hwritten : l.object.written l.device.nextSerial = t.written l.device.nextSerial :=
    (congrArg (fun t => Texture.written t l.device.nextSerial) h.fixed :)
  have hinitial : l.object.initialWrites = t.initialWrites := by
    rw [initialWrites, hformat, h.fresh hn, initialWrites]
  have himage : l.object.image? l.device = none := (image?_of_ne hk).trans hn
  have hnothing : ws = [] := h.host himage
  subst hnothing
  have hbefore := h.events
  rw [hn, himage] at hbefore
  refine ⟨_, {
    fixed := h.fixed
    surface := serves_made.surface.trans h.surface
    fresh := fun hnone => nomatch hnone
    own := fun _ => hkind ▸ hk
    host := fun _ => rfl
    trace := by rw [trace_made, h.trace, List.append_assoc]
    events := ?_
    fits := h.fits }⟩
  rw [List.filter_append, hbefore, image?_made hk, hrequest, hwritten, hinitial,
    List.filter_cons_of_pos (by rfl), filter_isTexture_written]
  simp [made]

/-- The host makes writes that fit. -/
theorem wrote (h : Filled t d l new ws) (hi : l.object.image? l.device = some image)
    {added : List TextureWrite} (hfits : ∀ w ∈ added, w.Fits t) :
    ∃ es, Filled t d (Texture.wrote image added l) (new ++ es) (ws ++ added) := by
  have hwritten : l.object.written image = t.written image :=
    (congrArg (fun t => Texture.written t image) h.fixed :)
  have hi' : (Texture.wrote image added l).object.image? (Texture.wrote image added l).device =
      some image := hi
  have hbefore := h.events
  rw [hi] at hbefore
  refine ⟨added.map (t.written image), {
    fixed := h.fixed
    surface := h.surface
    fresh := h.fresh
    own := h.own
    host := fun hnone => nomatch hi'.symm.trans hnone
    trace := ?_
    events := ?_
    fits := List.forall_mem_append.2 ⟨h.fits, hfits⟩ }⟩
  · rw [← hwritten, ← List.append_assoc, ← h.trace]
    rfl
  · rw [List.filter_append, hbefore, filter_isTexture_written, hi']
    simp [Texture.wrote]

end Filled

/-! ## Steps -/

section Steps

variable {new : List Event} {ws : List TextureWrite}

/-- Binding a texture makes its device texture, or nothing that is written. -/
theorem Use.filled (h : Use l l') (hl : Filled t d l new ws) : ∃ es, Filled t d l' (new ++ es) ws := by
  have hnil : l.device.trace = l.device.trace ++ [] := (List.append_nil _).symm
  cases h with
  | make hk hn => exact hl.make hk hn
  | view | keepSampled =>
    exact hl.same [_] (List.forall_mem_singleton.2 rfl) rfl rfl rfl rfl rfl
  | keepStorage =>
    refine hl.same _ (fun e he => ?_) Device.trace_createViews rfl Device.Serves.createViews.surface rfl
      rfl
    obtain ⟨v, -, rfl⟩ := List.mem_map.1 he
    rfl
  | sampled | storage | advance => exact hl.same [] (List.forall_mem_nil _) hnil rfl rfl rfl rfl

/-- So does rendering into it. -/
theorem Attach.filled (h : Attach l l') (hl : Filled t d l new ws) :
    ∃ es, Filled t d l' (new ++ es) ws := by
  cases h with
  | make hk hn => exact hl.make hk hn
  | keep => exact hl.same [_] (List.forall_mem_singleton.2 rfl) rfl rfl rfl rfl rfl
  | select =>
    exact hl.same [] (List.forall_mem_nil _) (List.append_nil _).symm rfl rfl rfl rfl

/-- What every step of a relation keeps, finitely many steps keep. -/
theorem filled_of_steps {R : Live Texture → Live Texture → Prop}
    (step : ∀ l l' new, R l l' → Filled t d l new ws → ∃ es, Filled t d l' (new ++ es) ws)
    (h : ReflTransGen R l l') (hl : Filled t d l new ws) : ∃ es, Filled t d l' (new ++ es) ws := by
  induction h with
  | refl => exact ⟨[], by rwa [List.append_nil]⟩
  | tail _ h ih =>
    obtain ⟨es, hl⟩ := ih
    obtain ⟨es', hl'⟩ := step _ _ _ h hl
    exact ⟨es ++ es', by rwa [← List.append_assoc]⟩

theorem filled_of_uses (h : ReflTransGen Use l l') (hl : Filled t d l new ws) :
    ∃ es, Filled t d l' (new ++ es) ws :=
  filled_of_steps (fun _ _ _ => Use.filled) h hl

/-- Bringing a texture up to date makes the writes that its handler asks for, as far as they fit. -/
theorem filled_of_acquire (p : SyncPoint) (h : Filled t d l new ws) :
    ∃ es, Filled t d (after (acquire p) l) (new ++ es) (ws ++ (Call.acquire p).hostWrites l) := by
  obtain ⟨hmissing, hfail⟩ | ⟨hmissing, made, image, hi, hmade, hafter⟩ := acquire_eq p l
  · refine ⟨[], ?_⟩
    rw [after_error hfail, Call.hostWrites, if_pos hmissing, List.append_nil, List.append_nil]
    exact h
  have hhost : (Call.acquire p).hostWrites l = made := (if_neg hmissing).trans hmade.eq_takeWhile.symm
  have hfits : ∀ w ∈ made, w.Fits t := fun w hw => (hmade.fits w hw).fixed h.fixed
  obtain ⟨es, hready⟩ : ∃ es, Filled t d (ready l) (new ++ es) ws := by
    unfold ready
    split
    · exact ⟨[], by rwa [List.append_nil]⟩
    · next hnone =>
      rw [not_or] at hnone
      exact h.make hnone.1 (Option.not_isSome_iff_eq_none.1 hnone.2)
  obtain ⟨es', hasked⟩ : ∃ es', Filled t d (asked p (ready l)) (new ++ es ++ es') ws := by
    refine hready.same _ (fun e he => ?_) rfl rfl rfl rfl rfl
    obtain ⟨handler, -, rfl⟩ := List.mem_map.1 he
    rfl
  have hi' : (asked p (ready l)).object.image? (asked p (ready l)).device = some image := hi
  obtain ⟨es'', hwrote⟩ := hasked.wrote hi' hfits
  rw [hafter, hhost]
  exact ⟨es ++ es' ++ es'', by simpa only [List.append_assoc] using hwrote⟩

/-- A call keeps the invariant, with more of a trace and the writes that it makes for the host. -/
theorem Call.filled (c : Call) (h : Filled t d l new ws) :
    ∃ es, Filled t d (after c.action l) (new ++ es) (ws ++ c.hostWrites l) := by
  cases c with
  | acquire p => exact filled_of_acquire p h
  | useAsTarget layer =>
    rw [hostWrites, List.append_nil]
    exact filled_of_steps (fun _ _ _ => Attach.filled) (useAsTarget_attaches layer l) h
  | useAsSampled =>
    rw [hostWrites, List.append_nil]
    exact filled_of_uses (useAsSampled_uses l) h
  | useAsStorage =>
    rw [hostWrites, List.append_nil]
    exact filled_of_uses (useAsStorage_uses l) h
  | mipViews start =>
    rw [hostWrites, List.append_nil, action, after_discard]
    exact filled_of_uses (mipViews_uses start l) h
  | view =>
    rw [hostWrites, List.append_nil, action, after_discard]
    exact filled_of_uses (view_uses l) h
  | handle =>
    rw [hostWrites, List.append_nil, action, after_discard]
    exact filled_of_uses (handle_uses l) h
  | pointCursor | advanceCursor | setAutoAdvance =>
    rw [hostWrites, List.append_nil]
    exact h.same [] (List.forall_mem_nil _) (List.append_nil _).symm rfl rfl rfl rfl

/-- Whatever calls are made, they keep the invariant. -/
theorem filled_afterCalls (cs : List Call) (h : Filled t d l new ws) :
    ∃ es, Filled t d (afterCalls cs l) (new ++ es) (ws ++ hostWrites cs l) := by
  induction cs generalizing l new ws with
  | nil => exact ⟨[], by simpa [afterCalls, hostWrites] using h⟩
  | cons c cs ih =>
    obtain ⟨es, h⟩ := c.filled h
    obtain ⟨es', h'⟩ := ih h
    exact ⟨es ++ es', by simpa only [afterCalls, hostWrites, List.foldl_cons, List.append_assoc] using h'⟩

end Steps

/-! ## From the creation on -/

section Created

variable {limits : Limits} {surfaceFormat : TextureFormat} {kind : TextureKind} {layers : Nat}
  {desc : TextureDesc} {id : ResourceId}

/-- The contents of a new texture are none, or one entry for each layer. -/
theorem contents_of_create (h : create limits surfaceFormat kind layers desc id = .ok t) :
    t.layers = layers ∧ t.contents = desc.contents ∧
      (desc.contents = [] ∨ desc.contents.length = layers) := by
  unfold create at h
  obtain ⟨-, h⟩ := of_check_eq_ok h
  obtain ⟨-, h⟩ := of_check_eq_ok h
  obtain ⟨-, h⟩ := of_check_eq_ok h
  obtain ⟨n, -, h⟩ := bind_eq_ok_iff.1 h
  obtain ⟨hcontents, h⟩ := of_check_eq_ok h
  cases h
  exact ⟨rfl, rfl, by tauto⟩

/-- The initial contents are written once for each layer, in the order of the layers; those of a
depth-stencil texture are not written. -/
theorem layer_initialWrites (t : Texture) : t.initialWrites.map TextureWrite.layer =
    if t.format.isDepthStencil then [] else List.range t.contents.length := by
  unfold initialWrites
  split
  · rfl
  · rw [List.map_map, List.range_eq_range', ← List.zipIdx_map_snd]
    rfl

theorem of_mem_initialWrites {w : TextureWrite} (h : w ∈ t.initialWrites) :
    w.mip = 0 ∧ t.contents[w.layer]? = some w.data := by
  unfold initialWrites at h
  split at h
  · cases h
  · obtain ⟨p, hp, rfl⟩ := List.mem_map.1 h
    exact ⟨rfl, List.mem_zipIdx_iff_getElem?.1 hp⟩

/-- The initial contents of a new texture fit. -/
theorem fits_initialWrites (h : create limits surfaceFormat kind layers desc id = .ok t) :
    ∀ w ∈ t.initialWrites, w.Fits t := by
  obtain ⟨-, -, hmips, -⟩ := create_eq_ok h
  obtain ⟨hlayers, hcontents, hlength⟩ := contents_of_create h
  intro w hw
  obtain ⟨hmip, hdata⟩ := of_mem_initialWrites hw
  obtain ⟨hlt, -⟩ := List.getElem?_eq_some_iff.1 hdata
  rw [hcontents] at hlt
  refine ⟨?_, hmip ▸ hmips⟩
  rcases hlength with hnil | hlength
  · simp [hnil] at hlt
  · omega

/-- A write that fits covers the full extent of one mip of one layer of the texture. -/
theorem covers_of_fits {image' : Nat} {write : LevelWrite} {ws : List TextureWrite}
    (hfits : ∀ w ∈ ws, w.Fits t) (h : .textureWritten image write ∈ ws.map (t.written image')) :
    image' = image ∧ write.mip < t.mips ∧ write.layer < t.layers ∧
      (write.width, write.height) = t.mipExtent write.mip := by
  obtain ⟨w, hw, heq⟩ := List.mem_map.1 h
  cases heq
  exact ⟨rfl, (hfits w hw).mip, (hfits w hw).layer, (t.mipExtent_eq w.mip).symm⟩

/-- Every write is into the texture that is behind it at the end, and covers a mip of a layer of it. -/
theorem Filled.covers {new : List Event} {ws : List TextureWrite} {write : LevelWrite}
    (hl : Filled t d l new ws) (hinitial : ∀ w ∈ t.initialWrites, w.Fits t)
    (h : .textureWritten image write ∈ new) : l.object.image? l.device = some image ∧
      write.mip < t.mips ∧ write.layer < t.layers ∧
      (write.width, write.height) = t.mipExtent write.mip := by
  have hmem : .textureWritten image write ∈ new.filter Event.isTexture := List.mem_filter.2 ⟨h, rfl⟩
  rw [hl.events] at hmem
  rcases List.mem_append.1 hmem with hmem | hmem
  · obtain ⟨image', hi, hmem⟩ := List.mem_flatMap.1 hmem
    rcases List.mem_cons.1 hmem with heq | hmem
    · cases heq
    obtain ⟨rfl, hcovers⟩ := covers_of_fits hinitial hmem
    have hown : l.object.device = some image' := Option.mem_toList.1 hi
    have hkind : l.object.kind = t.kind := (congrArg Texture.kind hl.fixed :)
    have hk : l.object.kind ≠ .surface := hkind ▸ hl.own (Option.isSome_iff_exists.2 ⟨_, hown⟩)
    exact ⟨(image?_of_ne hk).trans hown, hcovers⟩
  · obtain ⟨image', hi, hmem⟩ := List.mem_flatMap.1 hmem
    obtain ⟨rfl, hcovers⟩ := covers_of_fits hl.fits hmem
    exact ⟨Option.mem_toList.1 hi, hcovers⟩

/-- The initial contents of a new texture are written to all of its layers, or there are none. -/
theorem layers_initialWrites (h : create limits surfaceFormat kind layers desc id = .ok t) :
    t.initialWrites.map TextureWrite.layer =
      if t.format.isDepthStencil ∨ desc.contents = [] then [] else List.range layers := by
  obtain ⟨-, hcontents, hlength⟩ := contents_of_create h
  rw [layer_initialWrites, hcontents]
  by_cases hnil : desc.contents = []
  · simp [hnil]
  · rw [hlength.resolve_left hnil]
    simp [hnil]

/-- **What a device gets on behalf of a texture, over every sequence of calls from its creation.**

The device texture is made at most once. It gets the initial contents together with it, once for each
layer in the order of the layers, and not at all for a depth-stencil texture, and then the writes of the
host that fit, in order. Every write covers the full extent of one mip of one layer, and the texture has
both. -/
theorem levelWrites_spec (h : create limits surfaceFormat kind layers desc id = .ok t) (d : Device)
    (cs : List Call) :
    let l := afterCalls cs ⟨t, d⟩
    (∃ new, l.device.trace = d.trace ++ new ∧
      (new.filter Event.isTexture =
        (l.object.device.toList.flatMap fun image =>
          .textureCreated image t.request :: t.initialWrites.map (t.written image)) ++
        (l.object.image? l.device).toList.flatMap fun image =>
          (hostWrites cs ⟨t, d⟩).map (t.written image)) ∧
      ∀ image write, .textureWritten image write ∈ new → l.object.image? l.device = some image ∧
        write.mip < t.mips ∧ write.layer < layers ∧
        (write.width, write.height) = t.mipExtent write.mip) ∧
    (t.initialWrites.map TextureWrite.layer =
      if t.format.isDepthStencil ∨ desc.contents = [] then [] else List.range layers) ∧
    ∀ w ∈ t.initialWrites, w.mip = 0 ∧ desc.contents[w.layer]? = some w.data := by
  intro l
  obtain ⟨hlayers, hcontents, -⟩ := contents_of_create h
  obtain ⟨-, -, -, -, hdevice, -⟩ := create_eq_ok h
  obtain ⟨new, hl⟩ := filled_afterCalls cs (Filled.of_create (d := d) hdevice)
  rw [List.nil_append, List.nil_append] at hl
  refine ⟨⟨new, hl.trace, hl.events, fun image write hw => ?_⟩, layers_initialWrites h, fun w hw => ?_⟩
  · rw [← hlayers]
    exact hl.covers (fits_initialWrites h) hw
  · rw [← hcontents]
    exact of_mem_initialWrites hw

end Created

namespace Layered

/-- A handler that asks for two writes before the first pass. -/
def handler : Handler TextureWrite :=
  .scripted [some [{ layer := 1, mip := 1, data := #[3] }, { layer := 0, mip := 2, data := #[4] }]] []

/-- The description of a texture with two layers and two mips, into which the first of them fits. -/
def desc : TextureDesc where
  width := 4
  height := 6
  format := some .rgba8Unorm
  contents := [#[1], #[2]]
  handler := some handler

/-- The texture that is created from it. -/
def texture : Texture where
  id := ⟨7⟩
  label := none
  kind := .d2Array
  format := .rgba8Unorm
  width := 4
  height := 6
  layers := 2
  mips := 2
  samples := 1
  usage := { copyTarget := true, textureBinding := true }
  contents := [#[1], #[2]]
  handler := some handler

/-- The texture is made by the first call that needs it. -/
def calls : List Call := [.pointCursor 5, .useAsSampled, .acquire .before, .handle]

end Layered

/-- Both layers are written, and then the one write of the handler that fits: into the second mip, of two
texels by three, of the second layer. -/
theorem levelWrites_layered :
    create {} .bgra8Unorm .d2Array 2 Layered.desc ⟨7⟩ = .ok Layered.texture ∧
    ∃ new, (afterCalls Layered.calls ⟨Layered.texture, .start {}⟩).device.trace =
        (Device.start {}).trace ++ new ∧
      new.filter Event.isTexture = [.textureCreated 3 Layered.texture.request,
        .textureWritten 3 ⟨0, 0, 4, 6, #[1], 16, 6⟩, .textureWritten 3 ⟨0, 1, 4, 6, #[2], 16, 6⟩,
        .textureWritten 3 ⟨1, 1, 2, 3, #[3], 8, 3⟩] := by
  have hcreate : create {} .bgra8Unorm .d2Array 2 Layered.desc ⟨7⟩ = .ok Layered.texture := rfl
  have hhost : hostWrites Layered.calls ⟨Layered.texture, .start {}⟩ =
      [{ layer := 1, mip := 1, data := #[3] }] := by cbv
  have hdevice : (afterCalls Layered.calls ⟨Layered.texture, .start {}⟩).object.device = some 3 := by
    cbv
  have hkind : (afterCalls Layered.calls ⟨Layered.texture, .start {}⟩).object.kind = .d2Array := by cbv
  obtain ⟨new, htrace, hevents, -⟩ := (levelWrites_spec hcreate (.start {}) Layered.calls).1
  rw [image?_of_ne (by rw [hkind]; decide), hdevice, hhost] at hevents
  exact ⟨hcreate, new, htrace, hevents⟩

end Texture

end PassForge
