import PassForge.Proofs.Context.Durable
import PassForge.Proofs.Resource.TextureCalls
import PassForge.Proofs.Resource.TextureCursor

/-!
# The cursor over sequences of calls

The cursor of a texture is where it was pointed last, moved on by one for each call since then that
advances it, modulo the number of mips.

* `New` are the textures that sequences start with: created ones, and those that stand for the surface.
* `Call.moves` says which calls move the cursor on: those that advance it, and reads of the storage view
  with auto-advance. `Call.cursor_after` is about one call, `cursor_afterCalls` about a sequence that does
  not point the cursor.
* `Indexed` is the invariant behind reads of the storage view: there is one view for each mip.
  `Step.indexed` is the step lemma and `indexed_afterCalls` the run lemma.
* `cursor_spec` is the whole statement.
-/

namespace PassForge.Texture

open Relation (ReflTransGen)

variable {l l' : Live Texture} {t : Texture} {d : Device}

/-! ## New textures -/

/-- A texture to which nothing has been done yet. -/
inductive New : Texture → Prop
  | created {limits : Limits} {surfaceFormat : TextureFormat} {kind : TextureKind} {layers : Nat}
      {desc : TextureDesc} {id : ResourceId} {t : Texture}
      (h : create limits surfaceFormat kind layers desc id = .ok t) : New t
  | surface (d : Device) (id : ResourceId) : New (ofSurface d id)

theorem mips_of_create {limits : Limits} {surfaceFormat : TextureFormat} {kind : TextureKind}
    {layers : Nat} {desc : TextureDesc} {id : ResourceId}
    (h : create limits surfaceFormat kind layers desc id = .ok t) :
    t.mips ≤ maxMipLevels t.width t.height := by
  have hone : 1 ≤ maxMipLevels desc.width desc.height := Nat.le_max_right ..
  unfold create at h
  obtain ⟨-, h⟩ := of_check_eq_ok h
  obtain ⟨-, h⟩ := of_check_eq_ok h
  obtain ⟨-, h⟩ := of_check_eq_ok h
  obtain ⟨n, hn, h⟩ := bind_eq_ok_iff.1 h
  obtain ⟨-, h⟩ := of_check_eq_ok h
  cases h
  show n ≤ maxMipLevels desc.width desc.height
  unfold mipCount at hn
  simp only [] at hn
  split at hn
  · cases hn
  · next hle =>
    split at hn
    · cases hn
      exact hone
    · cases hn
      exact Nat.max_le.2 ⟨Nat.le_of_not_lt hle, hone⟩

/-- Below sizes of 32 bits, a texture has fewer than 32 mips. -/
theorem maxMipLevels_lt {width height : Nat} (hw : width < UInt32.size) (hh : height < UInt32.size) :
    maxMipLevels width height < 32 := by
  unfold maxMipLevels
  refine Nat.max_lt.2 ⟨(Nat.log2_lt (by omega)).2 ?_, by decide⟩
  have hsize : UInt32.size = 2 ^ 32 := rfl
  omega

theorem New.start (h : New t) : 0 < t.mips ∧ t.mips ≤ maxMipLevels t.width t.height ∧ t.cursor = 0 ∧
    t.mode = .none ∧ t.storageViews = none ∧ t.autoAdvance = false := by
  cases h with
  | created h =>
    obtain ⟨-, -, hmips, hcursor, -, -, hviews, -, hmode, hauto⟩ := create_eq_ok h
    exact ⟨hmips, mips_of_create h, hcursor, hmode, hviews, hauto⟩
  | surface => exact ⟨Nat.one_pos, Nat.le_max_right .., rfl, rfl, rfl, rfl⟩

/-! ## Storage views by mip -/

/-- A texture whose cursor is at one of its mips. In storage mode it keeps its storage views, and if it
keeps them there is one for each mip. -/
structure Indexed (t : Texture) : Prop where
  cursor : t.cursor < t.mips
  length : ∀ vs, t.storageViews = some vs → vs.length = t.mips
  views : ∀ vs mip v, t.storageViews = some vs → vs[mip]? = some v →
    ∃ image, v = (t.storageRange mip).view v.serial image
  mode : t.mode = .storage → t.storageViews.isSome

theorem New.indexed (h : New t) : t.Indexed := by
  obtain ⟨hmips, -, hcursor, hmode, hviews, -⟩ := h.start
  refine ⟨hcursor ▸ hmips, fun vs hvs => ?_, fun vs _ _ hvs => ?_, fun hstorage => ?_⟩
  · exact nomatch hviews.symm.trans hvs
  · exact nomatch hviews.symm.trans hvs
  · exact nomatch hmode.symm.trans hstorage

theorem Indexed.mod_lt (h : t.Indexed) (n : Nat) : n % t.mips < t.mips :=
  Nat.mod_lt _ (Nat.zero_lt_of_lt h.cursor)

/-- All storage views are made together, one for each mip. -/
theorem Indexed.keepStorage {image : Nat} (h : l.object.Indexed) :
    (keepStorage image l).object.Indexed := by
  have hviews : List.Forall₂ _ l.object.storageRanges
      (l.device.createViews l.object.label image l.object.storageRanges).1 :=
    Device.hasView_createViews
  refine ⟨h.cursor, fun vs hvs => ?_, fun vs mip v hvs hv => ?_, fun _ => rfl⟩
  · cases hvs
    refine hviews.length_eq.symm.trans ?_
    rw [storageRanges, List.length_map, List.length_range]
    rfl
  · cases hvs
    obtain ⟨hlt, rfl⟩ := List.getElem?_eq_some_iff.1 hv
    refine ⟨image, (hviews.get (hviews.length_eq ▸ hlt) hlt).eq.trans ?_⟩
    rw [List.get_eq_getElem, List.get_eq_getElem]
    simp only [storageRanges, List.getElem_map, List.getElem_range]
    rfl

theorem Use.indexed (h : Use l l') (hl : l.object.Indexed) : l'.object.Indexed := by
  cases h with
  | make | view | keepSampled => exact ⟨hl.cursor, hl.length, hl.views, hl.mode⟩
  | keepStorage => exact hl.keepStorage
  | sampled => exact ⟨hl.cursor, hl.length, hl.views, fun h => nomatch h⟩
  | storage _ hv => exact ⟨hl.cursor, hl.length, hl.views, fun _ => hv⟩
  | advance => exact ⟨hl.mod_lt _, hl.length, hl.views, hl.mode⟩

/-- A step keeps the storage views in order, and the cursor at one of the mips. -/
theorem Step.indexed (h : Step l l') (hl : l.object.Indexed) : l'.object.Indexed := by
  cases h with
  | use h => exact h.indexed hl
  | write => exact hl
  | target => exact ⟨hl.cursor, hl.length, hl.views, fun h => nomatch h⟩
  | point | advance => exact ⟨hl.mod_lt _, hl.length, hl.views, hl.mode⟩
  | ask | keepTarget | setAutoAdvance | setHandler =>
    exact ⟨hl.cursor, hl.length, hl.views, hl.mode⟩

/-- In storage mode, reading the view yields that of the mip at the cursor. -/
theorem Indexed.exists_view (h : l.object.Indexed) (hm : l.object.mode = .storage) :
    ∃ v image, outcome view l = .ok v ∧
      v = (l.object.storageRange l.object.cursor).view v.serial image := by
  obtain ⟨vs, hvs⟩ := Option.isSome_iff_exists.1 (h.mode hm)
  have hlt : l.object.cursor < vs.length := by
    rw [h.length vs hvs]
    exact h.cursor
  have hget := List.getElem?_eq_getElem hlt
  obtain ⟨image, hv⟩ := h.views vs _ _ hvs hget
  refine ⟨vs[l.object.cursor], image, ?_, hv⟩
  rw [outcome, view_apply, hm]
  simp only [storageView_apply, hvs, Option.getD_some, hget]

/-! ## Calls -/

/-- Every call takes steps. -/
theorem Call.runs (c : Call) : Runs Step c.action := fun l => by
  cases c with
  | useAsTarget layer => exact useAsTarget_runs layer l
  | useAsSampled => exact (useAsSampled_uses l).mono fun _ _ => .use
  | useAsStorage => exact (useAsStorage_uses l).mono fun _ _ => .use
  | mipViews start => exact ((mipViews_uses start l).mono fun _ _ => .use).bind fun _ _ _ => .refl
  | view => exact ((view_uses l).mono fun _ _ => .use).bind fun _ _ _ => .refl
  | pointCursor level => exact pointCursor_runs level l
  | advanceCursor => exact advanceCursor_runs l
  | setAutoAdvance enabled => exact setAutoAdvance_runs enabled l
  | handle => exact ((handle_uses l).mono fun _ _ => .use).bind fun _ _ _ => .refl
  | acquire p => exact acquire_runs p l

theorem indexed_of_steps (h : ReflTransGen Step l l') (hl : l.object.Indexed) :
    l'.object.Indexed ∧ l'.object.fixed = l.object.fixed := by
  induction h with
  | refl => exact ⟨hl, rfl⟩
  | tail _ h ih => exact ⟨h.indexed ih.1, h.fixed.trans ih.2⟩

/-- Whatever calls are made, they keep the invariant and what is fixed about the texture. -/
theorem indexed_afterCalls (cs : List Call) (hl : l.object.Indexed) :
    (afterCalls cs l).object.Indexed ∧ (afterCalls cs l).object.fixed = l.object.fixed := by
  induction cs generalizing l with
  | nil => exact ⟨hl, rfl⟩
  | cons c cs ih =>
    obtain ⟨hl', hfixed⟩ := indexed_of_steps (c.runs l) hl
    obtain ⟨h, hfixed'⟩ := ih hl'
    exact ⟨h, hfixed'.trans hfixed⟩

/-! ## Moves -/

/-- Where a call points the cursor, if it does. -/
def Call.point? : Call → Option Nat
  | pointCursor level => some level
  | _ => none

/-- Whether a call moves the cursor on by one: it advances it, or it reads the storage view with
auto-advance. -/
def Call.moves (t : Texture) : Call → Bool
  | advanceCursor => true
  | view => t.mode = .storage ∧ t.autoAdvance
  | _ => false

/-- How a call sets auto-advance, if it does. -/
def Call.autoAdvance? : Call → Option Bool
  | setAutoAdvance enabled => some enabled
  | _ => none

/-- How often calls that are made one after the other move the cursor on. -/
def moves : List Call → Live Texture → Nat
  | [], _ => 0
  | c :: cs, l => (c.moves l.object).toNat + moves cs (after c.action l)

/-- Two states of a texture with the same cursor. -/
def SameCursor (l l' : Live Texture) : Prop := l'.object.cursor = l.object.cursor

theorem handle_sameCursor : Runs SameCursor handle := fun l =>
  (handle_refreshes .before l).mono fun _ _ => Refresh.cursor

theorem useAsSampled_sameCursor : Runs SameCursor useAsSampled := fun l => by
  obtain ⟨-, h⟩ | ⟨-, ⟨-, h⟩ | ⟨-, -, image, l₁, hl, h⟩⟩ := useAsSampled_cases l
  · exact .of_after (after_error h) .refl
  · exact .of_after (after_ok h) (.single rfl)
  · exact .of_after (after_ok h) (.single (handle_storage hl).1)

theorem useAsStorage_sameCursor : Runs SameCursor useAsStorage := fun l => by
  obtain ⟨-, h⟩ | ⟨-, ⟨-, h⟩ | ⟨-, -, h⟩ | ⟨-, image, l₁, hl, h⟩⟩ := useAsStorage_cases l
  · exact .of_after (after_error h) .refl
  · exact .of_after (after_ok h) (.single rfl)
  · exact .of_after (after_error h) .refl
  · exact .of_after (after_ok h) (.single (handle_storage hl).1)

theorem sampledViewNow_sameCursor : Runs SameCursor sampledViewNow := fun l => by
  unfold sampledViewNow
  refine .object ?_
  split
  · exact RunsFrom.object ((handle_sameCursor l).bind fun _ _ _ => .single rfl)
  · cases l.object.sampledView <;> exact .refl

/-- Reading another view leaves the cursor. -/
theorem view_sameCursor (hm : l.object.mode ≠ .storage) : RunsFrom SameCursor view l := by
  unfold view
  refine .object ?_
  cases h : l.object.mode with
  | none => exact .refl
  | target => exact runs_targetView l
  | sampled => exact sampledViewNow_sameCursor l
  | storage => exact absurd h hm

/-- Where the cursor is after a call: a read of the storage view with auto-advance moves it on, and so
does the call that advances it. -/
theorem Call.cursor_after {c : Call} (hc : c.point? = none) (l : Live Texture) :
    (after c.action l).object.cursor =
      if c.moves l.object then (l.object.cursor + 1) % l.object.mips else l.object.cursor := by
  have hsame {w : Action Texture Unit} (h : Runs SameCursor w) :
      (after w l).object.cursor = l.object.cursor :=
    Runs.eq (f := fun l : Live Texture => l.object.cursor) h l
  cases c with
  | useAsTarget layer =>
    exact hsame fun l => (useAsTarget_attaches layer l).mono fun _ _ => Attach.cursor
  | useAsSampled => exact hsame useAsSampled_sameCursor
  | useAsStorage => exact hsame useAsStorage_sameCursor
  | mipViews start =>
    refine hsame fun l => RunsFrom.bind ?_ fun _ _ _ => .refl
    exact (useAsStorage_sameCursor l).bind fun _ _ _ => .object .refl
  | pointCursor level => cases hc
  | advanceCursor => rfl
  | setAutoAdvance enabled => rfl
  | handle => exact hsame (handle_sameCursor.bind fun _ => runs_pure _)
  | acquire p => exact hsame fun l => (acquire_refreshes p l).mono fun _ _ => Refresh.cursor
  | view =>
    rw [action, after_discard]
    by_cases hm : l.object.mode = .storage
    · rw [after_view_of_storage hm, advanced, moves]
      cases l.object.autoAdvance <;> simp [hm, Texture.advanceCursor]
    · rw [moves, if_neg (by simp [hm])]
      exact eq_of_steps (f := fun l : Live Texture => l.object.cursor) (view_sameCursor hm)

/-- **A sequence of calls that does not point the cursor moves it on by as much as its calls do.** -/
theorem cursor_afterCalls {cs : List Call} (hcs : ∀ c ∈ cs, c.point? = none) (hl : l.object.Indexed) :
    (afterCalls cs l).object.cursor = (l.object.cursor + moves cs l) % l.object.mips := by
  induction cs generalizing l with
  | nil => exact (Nat.mod_eq_of_lt hl.cursor).symm
  | cons c cs ih =>
    obtain ⟨hc, hcs⟩ := List.forall_mem_cons.1 hcs
    obtain ⟨hl', hfixed⟩ := indexed_of_steps (c.runs l) hl
    have hmips : (after c.action l).object.mips = l.object.mips := (congrArg Texture.mips hfixed :)
    show (afterCalls cs (after c.action l)).object.cursor = _
    rw [ih hcs hl', hmips, Call.cursor_after hc, moves]
    cases c.moves l.object with
    | false => rw [if_neg Bool.false_ne_true, Bool.toNat_false, Nat.zero_add]
    | true => rw [if_pos rfl, Bool.toNat_true, Nat.mod_add_mod, Nat.add_assoc]

/-- The cursor is where it was pointed last, moved on by as much as the calls since then do. -/
theorem cursor_of_point {cs₁ cs₂ : List Call} {level : Nat} (hcs : ∀ c ∈ cs₂, c.point? = none)
    (hl : l.object.Indexed) : (afterCalls (cs₁ ++ .pointCursor level :: cs₂) l).object.cursor =
      (level + moves cs₂ (afterCalls (cs₁ ++ [.pointCursor level]) l)) % l.object.mips := by
  have hsplit : afterCalls (cs₁ ++ .pointCursor level :: cs₂) l =
      afterCalls cs₂ (afterCalls (cs₁ ++ [.pointCursor level]) l) := by
    rw [List.append_cons]
    exact List.foldl_append
  have hpoint : afterCalls (cs₁ ++ [.pointCursor level]) l =
      { afterCalls cs₁ l with object := (afterCalls cs₁ l).object.pointCursor level } :=
    List.foldl_append
  obtain ⟨hl', hfixed⟩ := indexed_afterCalls (cs₁ ++ [.pointCursor level]) hl
  have hmips : (afterCalls (cs₁ ++ [.pointCursor level]) l).object.mips = l.object.mips :=
    (congrArg Texture.mips hfixed :)
  have hmips' : (afterCalls cs₁ l).object.mips = l.object.mips :=
    (congrArg Texture.mips (indexed_afterCalls cs₁ hl).2 :)
  have hcursor : (afterCalls (cs₁ ++ [.pointCursor level]) l).object.cursor =
      level % l.object.mips := by
    rw [hpoint, ← hmips']
    rfl
  rw [hsplit, cursor_afterCalls hcs hl', hmips, hcursor, Nat.mod_add_mod]

/-- Auto-advance is what a call sets it to; no other call changes it. -/
theorem Call.autoAdvance_after (c : Call) (l : Live Texture) :
    (after c.action l).object.autoAdvance = c.autoAdvance?.getD l.object.autoAdvance := by
  have huses {w : Action Texture Unit} (h : RunsFrom Use w l) :
      (after w l).object.autoAdvance = l.object.autoAdvance :=
    field_of_bare autoAdvance (fun _ => rfl) (bare_of_uses h)
  cases c with
  | useAsTarget layer =>
    exact eq_of_steps (f := fun l : Live Texture => l.object.autoAdvance)
      ((useAsTarget_attaches layer l).mono fun _ _ => Attach.autoAdvance)
  | useAsSampled => exact huses (useAsSampled_uses l)
  | useAsStorage => exact huses (useAsStorage_uses l)
  | mipViews start => exact huses ((mipViews_uses start l).bind fun _ _ _ => .refl)
  | view => exact huses ((view_uses l).bind fun _ _ _ => .refl)
  | handle => exact huses ((handle_uses l).bind fun _ _ _ => .refl)
  | acquire p =>
    exact (congrArg Texture.autoAdvance (idle_of_refreshes (acquire_refreshes p l)) : _)
  | pointCursor | advanceCursor | setAutoAdvance => rfl

/-- It is what the last call that sets it has set it to. -/
theorem autoAdvance_afterCalls (cs : List Call) (l : Live Texture) :
    (afterCalls cs l).object.autoAdvance =
      (cs.filterMap Call.autoAdvance?).getLast?.getD l.object.autoAdvance := by
  induction cs generalizing l with
  | nil => rfl
  | cons c cs ih =>
    show (afterCalls cs (after c.action l)).object.autoAdvance = _
    rw [ih, c.autoAdvance_after, List.filterMap_cons]
    cases c.autoAdvance? with
    | none => rfl
    | some enabled => rw [List.getLast?_cons, Option.getD_some, Option.getD_some]

/-- **The cursor of a texture, over every sequence of calls from its creation.**

The cursor is always at one of the mips. It is where the last call that points it has pointed it, or at
the first mip if there is none, moved on by one for each call since then that advances it or reads the
storage view with auto-advance, modulo the number of mips. No other call moves it. Auto-advance is what
the last call that sets it has set it to, and off before. In storage mode, reading the view yields that
of the mip at the cursor. Numbers of 32 bits are enough. -/
theorem cursor_spec (h : New t) (d : Device) (cs : List Call) :
    let l := afterCalls cs ⟨t, d⟩
    l.object.cursor < t.mips ∧
    (t.width < UInt32.size → t.height < UInt32.size → l.object.cursor + 1 < UInt32.size) ∧
    (∀ cs₁ level cs₂, cs = cs₁ ++ .pointCursor level :: cs₂ → (∀ c ∈ cs₂, c.point? = none) →
      l.object.cursor =
        (level + moves cs₂ (afterCalls (cs₁ ++ [.pointCursor level]) ⟨t, d⟩)) % t.mips) ∧
    ((∀ c ∈ cs, c.point? = none) → l.object.cursor = moves cs ⟨t, d⟩ % t.mips) ∧
    (∀ c : Call, c.point? = none → c.moves l.object = false →
      (after c.action l).object.cursor = l.object.cursor) ∧
    l.object.autoAdvance = (cs.filterMap Call.autoAdvance?).getLast?.getD false ∧
    (l.object.mode = .storage → ∃ v image, outcome view l = .ok v ∧ v.baseMip = l.object.cursor ∧
      v = (t.storageRange l.object.cursor).view v.serial image) := by
  intro l
  obtain ⟨-, hmips, hcursor, -, -, hauto⟩ := h.start
  obtain ⟨hl, hfixed⟩ := indexed_afterCalls (l := ⟨t, d⟩) cs h.indexed
  have hsame : l.object.mips = t.mips := (congrArg Texture.mips hfixed :)
  have hrange : l.object.storageRange = t.storageRange := (congrArg Texture.storageRange hfixed :)
  have hlt : l.object.cursor < t.mips := hsame ▸ hl.cursor
  refine ⟨hlt, fun hw hh => ?_, fun cs₁ level cs₂ hcs hcs₂ => ?_, fun hcs => ?_, fun c hc hm => ?_,
    hauto ▸ autoAdvance_afterCalls cs ⟨t, d⟩, fun hm => ?_⟩
  · -- A texture has at most one mip for each bit of its sides.
    have hmost := maxMipLevels_lt hw hh
    have hsize : UInt32.size = 2 ^ 32 := rfl
    omega
  · subst hcs
    exact cursor_of_point hcs₂ h.indexed
  · rw [cursor_afterCalls hcs h.indexed, hcursor, Nat.zero_add]
  · rw [Call.cursor_after hc, hm, if_neg Bool.false_ne_true]
  · obtain ⟨v, image, hv, heq⟩ := hl.exists_view hm
    rw [hrange] at heq
    refine ⟨v, image, hv, ?_, heq⟩
    rw [heq]
    rfl

namespace Mipmapped

/-- Calls after the cursor has been pointed, two of which move it on: the first read, which is of the
storage view, and the last call. -/
def moving : List Call := [.setAutoAdvance true, .view, .useAsSampled, .view, .advanceCursor]

end Mipmapped

/-- Pointed at the largest number of 32 bits and moved on twice, the cursor is at the second of two
mips. -/
theorem cursor_mipmapped : New Mipmapped.texture ∧
    let l := afterCalls ([.useAsStorage] ++ .pointCursor (2 ^ 32 - 1) :: Mipmapped.moving)
      ⟨Mipmapped.texture, .start {}⟩
    l.object.cursor < 2 ∧ l.object.cursor + 1 < UInt32.size ∧
      l.object.cursor = (2 ^ 32 - 1 + 2) % 2 := by
  have hcreate : create {} .bgra8Unorm .storage2d 1 Mipmapped.desc ⟨7⟩ = .ok Mipmapped.texture := rfl
  have hnew : New Mipmapped.texture := .created hcreate
  obtain ⟨hlt, hsmall, hpoint, -⟩ := cursor_spec hnew (.start {})
    ([.useAsStorage] ++ .pointCursor (2 ^ 32 - 1) :: Mipmapped.moving)
  refine ⟨hnew, hlt, hsmall (by decide) (by decide), ?_⟩
  have hmoves : moves Mipmapped.moving
      (afterCalls ([.useAsStorage] ++ [.pointCursor (2 ^ 32 - 1)]) ⟨Mipmapped.texture, .start {}⟩) = 2 := by
    cbv
  rw [hpoint [.useAsStorage] _ Mipmapped.moving rfl (by decide), hmoves]
  rfl

end PassForge.Texture
