import PassForge.Proofs.Context.Bound
import PassForge.Proofs.Resource.TextureAgain

/-!
# Work that is done again

What compiling has done once it can do again, whatever has happened in between: everything that the
first run has left is still there. All that the second run may find in another state is the cursor of
a texture and the image of the surface.

* `Context.Precedes` relates what a run has left to a context in which the work is done again.
* `Aligned Same c c'`: the views of the textures that `Same` holds of are the same for two runs, one
  from `c` and one from `c'`.
* `Repeats Same R w w'`: if the first piece of work succeeds, so does the second in any aligned context
  that what the first has left precedes, with a related value, and leaves an aligned context.
* `Repeats.bind` and `Repeats.mapM` are the rules for sequences; `repeats_bufferHandle`,
  `repeats_samplerHandle` and `repeats_bindView` those for resources.
-/

namespace PassForge

open Context (Lasting Step Touch)
open Relation (ReflTransGen)

variable {ε α β τ : Type} {c c' c'' d d' : Context} {id : ResourceId}

/-! ## Contexts -/

namespace Context

/-- Everything in a context is still there in another one, on a device with the same limits and the
same surface. -/
structure Precedes (c c' : Context) : Prop where
  lasting : Lasting c c'
  limits : c'.device.limits = c.device.limits
  surface : c'.device.surface = c.device.surface

theorem Precedes.trans (h : c.Precedes c') (h' : c'.Precedes c'') : c.Precedes c'' where
  lasting := h.lasting.trans h'.lasting
  limits := h'.limits.trans h.limits
  surface := h'.surface.trans h.surface

theorem precedes_of_touches (h : ReflTransGen Touch c c') : c.Precedes c' := by
  have hserves := (spared_of_touches h).device
  refine ⟨?_, hserves.limits, hserves.surface⟩
  induction h with
  | refl => exact .refl
  | tail h₁ h ih => exact (ih (spared_of_touches h₁).device).trans h.lasting

/-- What operations do leaves everything there, so they lead to a later context if the surface is the
same in the end. -/
theorem precedes_of_steps (hc : Reachable c) (h : ReflTransGen Step c c')
    (hs : c'.device.surface = c.device.surface) : c.Precedes c' :=
  ⟨lasting_of_steps hc h, (later_of_steps h).limits, hs⟩

end Context

/-- Two sound contexts from which the same textures give bindings the same views, with storage access
or without: those that `Same` holds of have cursors in step, or are no surfaces. -/
structure Aligned (Same : ResourceId → Bool → Prop) (c c' : Context) : Prop where
  left : c.Sound
  right : c'.Sound
  inStep : ∀ id t t', Same id true → c.textures.get? id = some t → c'.textures.get? id = some t' →
    t.InStep t'
  surface : ∀ id t, Same id false → c.textures.get? id = some t → t.kind ≠ .surface

variable {Same : ResourceId → Bool → Prop}

/-- Touching contexts leaves them aligned as long as it leaves the textures. -/
theorem Aligned.touch (h : Aligned Same c c') (hc : ReflTransGen Touch c d)
    (hc' : ReflTransGen Touch c' d') (ht : d.textures = c.textures)
    (ht' : d'.textures = c'.textures) : Aligned Same d d' where
  left := Context.sound_of_touches hc h.left
  right := Context.sound_of_touches hc' h.right
  inStep := by
    rw [ht, ht']
    exact h.inStep
  surface := by
    rw [ht]
    exact h.surface

/-- Putting a texture back on both sides leaves the contexts aligned if it is so of the texture. -/
theorem Aligned.putTexture {t t' : Texture} {l l' : Live Texture} (h : Aligned Same c c')
    (ht : c.textures.get? id = some t) (ht' : c'.textures.get? id = some t')
    (hleft : (Shelf.textures.put id l c).Sound) (hright : (Shelf.textures.put id l' c').Sound)
    (hstep : Same id true → l.object.InStep l'.object) (hkind : l.object.kind = t.kind) :
    Aligned Same (Shelf.textures.put id l c) (Shelf.textures.put id l' c') := by
  have hget (id₁ : ResourceId) : (Shelf.textures.put id l c).textures.get? id₁ =
      if id₁ = id then some l.object else c.textures.get? id₁ := Store.get?_update ht
  have hget' (id₁ : ResourceId) : (Shelf.textures.put id l' c').textures.get? id₁ =
      if id₁ = id then some l'.object else c'.textures.get? id₁ := Store.get?_update ht'
  refine ⟨hleft, hright, fun id₁ t₁ t₁' hsame h₁ h₁' => ?_, fun id₁ t₁ hsame h₁ => ?_⟩
  · rw [hget] at h₁
    rw [hget'] at h₁'
    by_cases heq : id₁ = id
    · subst heq
      rw [if_pos rfl] at h₁ h₁'
      cases h₁
      cases h₁'
      exact hstep hsame
    · rw [if_neg heq] at h₁ h₁'
      exact h.inStep id₁ t₁ t₁' hsame h₁ h₁'
  · rw [hget] at h₁
    by_cases heq : id₁ = id
    · subst heq
      rw [if_pos rfl] at h₁
      cases h₁
      rw [hkind]
      exact h.surface id₁ t hsame ht
    · rw [if_neg heq] at h₁
      exact h.surface id₁ t₁ hsame h₁

/-! ## Rules -/

/-- What a first piece of work does from one context, a second does from an aligned one that comes
after it. -/
def Repeats (Same : ResourceId → Bool → Prop) (R : α → α → Prop) (w w' : Work ε α) : Prop :=
  ∀ c a c₁ c', Aligned Same c c' → w c = .ok a c₁ → c₁.Precedes c' →
    ∃ a' c₁', w' c' = .ok a' c₁' ∧ R a a' ∧ Aligned Same c₁ c₁'

section Rules

variable {R : α → α → Prop} {S : β → β → Prop} {w w' : Work ε α} {f f' : α → Work ε β}

theorem repeats_pure {a a' : α} (h : R a a') : Repeats Same R (pure a : Work ε α) (pure a') := by
  intro c a₁ c₁ c' halign hrun _
  cases hrun
  exact ⟨a', c', rfl, h, halign⟩

theorem Repeats.imp {R' : α → α → Prop} (h : Repeats Same R w w') (hr : ∀ a a', R a a' → R' a a') :
    Repeats Same R' w w' := by
  intro c a c₁ c' halign hrun hprecedes
  obtain ⟨a', c₁', hrun', hrel, halign'⟩ := h c a c₁ c' halign hrun hprecedes
  exact ⟨a', c₁', hrun', hr a a' hrel, halign'⟩

theorem Repeats.lift {w w' : Work ResourceError α} (h : Repeats Same R w w') :
    Repeats Same R (liftM w : Work CompileError α) (liftM w') := by
  intro c a c₁ c' halign hrun hprecedes
  obtain ⟨a', c₁', hrun', hr, halign'⟩ := h c a c₁ c' halign (lift_eq_ok.1 hrun) hprecedes
  exact ⟨a', c₁', lift_eq_ok.2 hrun', hr, halign'⟩

/-- What comes after a piece of work is still there when the piece is done again, and what the piece
leaves then is after it, too. -/
theorem Repeats.bind (hw : Repeats Same R w w') (htouch : ∀ a, Runs Touch (f a))
    (htouch' : Runs Touch w') (hf : ∀ a a', R a a' → Repeats Same S (f a) (f' a')) :
    Repeats Same S (w >>= f) (w' >>= f') := by
  intro c b c₂ c' halign hrun hprecedes
  obtain ⟨a, c₁, hfirst, hrest⟩ := bind_eq_ok hrun
  have hbefore : c₁.Precedes c' :=
    (Context.precedes_of_touches ((htouch a).of_eq_ok hrest)).trans hprecedes
  obtain ⟨a', c₁', hfirst', hr, halign₁⟩ := hw c a c₁ c' halign hfirst hbefore
  have hafter : c₂.Precedes c₁' :=
    hprecedes.trans (Context.precedes_of_touches (htouch'.of_eq_ok hfirst'))
  obtain ⟨b', c₂', hrest', hs, halign₂⟩ := hf a a' hr c₁ b c₂ c₁' halign₁ hrest hafter
  exact ⟨b', c₂', (bind_of_ok hfirst').trans hrest', hs, halign₂⟩

/-- Reading the context: what follows must be repeated whatever context comes after the one that was
read. -/
theorem repeats_context {g g' : Context → Work ε β}
    (htouch : Runs Touch (Work.context >>= g : Work ε β))
    (h : ∀ c c', c.Sound → c.Precedes c' → Repeats Same S (g c) (g' c')) :
    Repeats Same S (Work.context >>= g) (Work.context >>= g') := by
  intro c b c₁ c' halign hrun hprecedes
  have hbefore : c.Precedes c' :=
    (Context.precedes_of_touches (htouch.of_eq_ok hrun)).trans hprecedes
  rw [context_bind] at hrun
  exact h c c' halign.left hbefore c b c₁ c' halign hrun hprecedes

/-- A check that succeeds again. -/
theorem Repeats.except {r r' : Except ε α} (hr : ∀ a, r = .ok a → ∃ a', r' = .ok a' ∧ R a a')
    (hf : ∀ a a', R a a' → Repeats Same S (f a) (f' a')) :
    Repeats Same S ((liftM r : Work ε α) >>= f) ((liftM r' : Work ε α) >>= f') := by
  intro c b c₁ c' halign hrun hprecedes
  obtain ⟨a, ha, hrest⟩ := liftExcept_bind_eq_ok hrun
  obtain ⟨a', ha', hrel⟩ := hr a ha
  have hread : (liftM r' : Work ε α) c' = .ok a' c' := liftExcept_eq_ok.2 ⟨ha', rfl⟩
  obtain ⟨b', c₁', hrest', hs, halign'⟩ := hf a a' hrel c b c₁ c' halign hrest hprecedes
  exact ⟨b', c₁', (bind_of_ok hread).trans hrest', hs, halign'⟩

theorem Repeats.mapM {τ' : Type} {P : τ → τ' → Prop} {g : τ → Work ε α} {g' : τ' → Work ε α}
    (hg : ∀ a a', P a a' → Repeats Same R (g a) (g' a')) (htouch : ∀ a, Runs Touch (g a))
    (htouch' : ∀ a, Runs Touch (g' a)) {as : List τ} {as' : List τ'} (h : List.Forall₂ P as as') :
    Repeats Same (List.Forall₂ R) (as.mapM g) (as'.mapM g') := by
  induction h with
  | nil => exact repeats_pure .nil
  | @cons a a' as as' ha _ ih =>
    rw [List.mapM_cons, List.mapM_cons]
    have htail : ∀ b, Runs Touch (as.mapM g >>= fun bs => pure (b :: bs)) := fun b =>
      (Runs.mapM htouch as).bind fun bs => runs_pure _
    refine (hg a a' ha).bind htail (htouch' a') fun b b' hb => ?_
    refine ih.bind (fun bs => runs_pure _) (Runs.mapM htouch' as') fun bs bs' hbs => ?_
    exact repeats_pure (.cons hb hbs)

end Rules

/-! ## Devices and resources -/

/-- What the device yields may differ. -/
theorem repeats_call {f f' : Device → α × Device} (htouch : Runs Touch (Work.call f : Work ε α))
    (htouch' : Runs Touch (Work.call f' : Work ε α)) :
    Repeats Same (fun _ _ => True) (Work.call f : Work ε α) (Work.call f') := by
  intro c a c₁ c' halign hrun _
  have hrun' : (Work.call f' : Work ε α) c' =
      .ok (f' c'.device).1 { c' with device := (f' c'.device).2 } := rfl
  have hc := htouch.of_eq_ok hrun
  have hc' := htouch'.of_eq_ok hrun'
  cases hrun
  exact ⟨_, _, hrun', trivial, halign.touch hc hc' rfl rfl⟩

/-- The device buffer of a buffer is there already when it is used again. -/
theorem repeats_bufferHandle :
    Repeats Same Eq (Work.on .buffers id Buffer.handle) (Work.on .buffers id Buffer.handle) := by
  intro c serial c₁ c' halign hrun hprecedes
  have hc : ReflTransGen Touch c c₁ := (Work.on_buffer_touches Buffer.handle_uses).of_eq_ok hrun
  obtain ⟨b, l, hb, hl, rfl⟩ := on_eq_ok hrun
  obtain ⟨b', hb', hbecomes⟩ := hprecedes.lasting.buffer (@Shelf.get?_put _ .buffers _ c id b l hb)
  have hdevice : b'.device = some serial :=
    hbecomes.keeps (P := fun b => b.device = some serial) (fun _ _ hl => hl.device)
      (Buffer.handle_eq_ok hl).1
  have hhandle : Buffer.handle ⟨b', c'.device⟩ = .ok serial ⟨b', c'.device⟩ :=
    Buffer.handle_of_some hdevice
  have hrun' : Work.on .buffers id Buffer.handle c' = .ok serial c' := by
    have hput : Shelf.buffers.put id ⟨b', c'.device⟩ c' = c' := Shelf.put_self hb'
    have hon : Work.on .buffers id Buffer.handle c' =
        .ok serial (Shelf.buffers.put id ⟨b', c'.device⟩ c') := on_of_ok hb' hhandle
    rwa [hput] at hon
  exact ⟨serial, c', hrun', rfl, halign.touch hc .refl rfl rfl⟩

/-- The device sampler of a sampler is there already when it is used again. -/
theorem repeats_samplerHandle :
    Repeats Same Eq (Work.on .samplers id Sampler.handle) (Work.on .samplers id Sampler.handle) := by
  intro c serial c₁ c' halign hrun hprecedes
  have hc : ReflTransGen Touch c c₁ := (Work.on_sampler_touches Sampler.handle_runs).of_eq_ok hrun
  obtain ⟨s, l, hs, hl, rfl⟩ := on_eq_ok hrun
  obtain ⟨s', hs', hbecomes⟩ := hprecedes.lasting.sampler (@Shelf.get?_put _ .samplers _ c id s l hs)
  have hdevice : s'.device = some serial :=
    hbecomes.keeps (P := fun s => s.device = some serial) (fun _ _ hl => hl.device)
      (Sampler.handle_eq_ok hl).1
  have hhandle : Sampler.handle ⟨s', c'.device⟩ = .ok serial ⟨s', c'.device⟩ :=
    Sampler.handle_of_some hdevice
  have hrun' : Work.on .samplers id Sampler.handle c' = .ok serial c' := by
    have hput : Shelf.samplers.put id ⟨s', c'.device⟩ c' = c' := Shelf.put_self hs'
    have hon : Work.on .samplers id Sampler.handle c' =
        .ok serial (Shelf.samplers.put id ⟨s', c'.device⟩ c') := on_of_ok hs' hhandle
    rwa [hput] at hon
  exact ⟨serial, c', hrun', rfl, halign.touch hc .refl rfl rfl⟩

/-- **A texture that is bound again gives the same view where `Same` says so.** -/
theorem repeats_bindView (storage : Bool) :
    Repeats Same (fun v v' => Same id storage → v' = v)
      (Work.on .textures id (Texture.bindView storage))
      (Work.on .textures id (Texture.bindView storage)) := by
  intro c v c₁ c' halign hrun hprecedes
  have hc : ReflTransGen Touch c c₁ :=
    (Work.on_texture_touches (Texture.bindView_uses storage)).of_eq_ok hrun
  obtain ⟨t, l, ht, hl, rfl⟩ := on_eq_ok hrun
  have huses : ReflTransGen Texture.Use ⟨t, c.device⟩ l :=
    (Texture.bindView_uses storage).of_eq_ok hl
  replace ht : c.textures.get? id = some t := ht
  obtain ⟨t', ht', hbecomes⟩ := hprecedes.lasting.texture (@Shelf.get?_put _ .textures _ c id t l ht)
  have hsound := (halign.left.textures id t ht).2
  have hsound' := (halign.right.textures id t' ht').2
  have hsurface : c'.device.surface = c.device.surface :=
    hprecedes.surface.trans (Texture.serves_of_uses huses).surface
  obtain ⟨v', l', hl'⟩ := Texture.bindView_again (l := ⟨t, c.device⟩) (m := ⟨t', c'.device⟩) hsound hl
    hbecomes hsound' hsurface
  have hrun' : Work.on .textures id (Texture.bindView storage) c' =
      .ok v' (Shelf.textures.put id l' c') := on_of_ok ht' hl'
  have hc' := (Work.on_texture_touches (Texture.bindView_uses storage)).of_eq_ok hrun'
  have hfixed := Texture.fixed_of_again (m := ⟨t', c'.device⟩) hl hbecomes
  refine ⟨v', _, hrun', fun hsame => ?_, ?_⟩
  · cases storage with
    | true =>
      have hstep := halign.inStep id t t' hsame ht ht'
      exact Texture.bindView_storage_eq (l := ⟨t, c.device⟩) (m := ⟨t', c'.device⟩) hsound hl hbecomes
        hsound' hstep.cursor hl'
    | false =>
      exact Texture.bindView_sampled_eq (l := ⟨t, c.device⟩) (m := ⟨t', c'.device⟩)
        (halign.surface id t hsame ht) hl hbecomes hl'
  · refine halign.putTexture ht ht' (Context.sound_of_touches hc halign.left)
      (Context.sound_of_touches hc' halign.right) (fun hsame => ?_) ?_
    · have hstep := halign.inStep id t t' hsame ht ht'
      exact Texture.InStep.bindView (l := ⟨t, c.device⟩) (m := ⟨t', c'.device⟩) hstep hfixed hsound
        hsound' hl hl'
    · exact Texture.field_of_bare Texture.kind (fun _ => rfl) (Texture.bare_of_uses huses)

end PassForge
