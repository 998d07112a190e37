import Mathlib.Data.List.Forall2
import PassForge.Proofs.Context.Sound
import PassForge.Proofs.Context.Spared

/-!
# Runs from twins

Two sound contexts are twins if they are the same when bare. Work that only touches contexts leaves
twins twins; it agrees on them if it yields related values from both or fails from both with the same
error.

* `Agree R` relates two results, `Agrees R` two pieces of work.
* `Agrees.bind` and `Agrees.mapM` are the rules for sequences.
* `agrees_on`: an action on a resource agrees if it does so on any two sound resources that are the
  same when bare.
-/

namespace PassForge

open Context (Touch)
open Relation (ReflTransGen)

variable {ε α β τ : Type}

/-! ## Results -/

/-- Two results are related values or the same failure. -/
inductive Agree (R : α → α → Prop) : Except ε α → Except ε α → Prop
  | ok {a a' : α} (h : R a a') : Agree R (.ok a) (.ok a')
  | error {e : ε} : Agree R (.error e) (.error e)

namespace Agree

variable {R : α → α → Prop} {S : β → β → Prop} {x x' : Except ε α}

theorem of_eq (h : x = x') : Agree Eq x x' := by
  subst h
  cases x with
  | ok a => exact .ok rfl
  | error e => exact .error

theorem imp {R' : α → α → Prop} (h : Agree R x x') (hr : ∀ a a', R a a' → R' a a') :
    Agree R' x x' := by
  cases h with
  | ok h => exact .ok (hr _ _ h)
  | error => exact .error

/-- Results that a function does not tell apart. -/
theorem of_map {f : α → β} (h : x.map f = x'.map f) : Agree (fun a a' => f a = f a') x x' := by
  cases x with
  | ok a =>
    cases x' with
    | ok a' => exact .ok (Except.ok.inj h)
    | error e' => cases h
  | error e =>
    cases x' with
    | ok a' => cases h
    | error e' =>
      cases h
      exact .error

theorem mapError {ε' : Type} {f : ε → ε'} (h : Agree R x x') :
    Agree R (x.mapError f) (x'.mapError f) := by
  cases h with
  | ok h => exact .ok h
  | error => exact .error

/-- What fails one way fails the other way. -/
theorem eq_error {e : ε} (h : Agree R x x') (hx : x = .error e) : x' = .error e := by
  cases h with
  | ok h => cases hx
  | error => exact hx

end Agree

/-! ## Twins -/

/-- Two sound contexts that are the same when bare. -/
structure Twin (c c' : Context) : Prop where
  left : c.Sound
  right : c'.Sound
  bare : c'.bare = c.bare

/-- From twins, two pieces of work yield related values or fail with the same error. -/
def Agrees (R : α → α → Prop) (w w' : Work ε α) : Prop :=
  ∀ c c', Twin c c' → Agree R (outcome w c) (outcome w' c')

section Rules

variable {R : α → α → Prop} {S : β → β → Prop} {w w' : Work ε α} {f f' : α → Work ε β}
  {c c' : Context}

/-- Touching a sound context leaves a twin of it. -/
theorem Twin.of_touches (hc : c.Sound) (h : ReflTransGen Touch c c') : Twin c c' where
  left := hc
  right := Context.sound_of_touches h hc
  bare := (Context.spared_of_touches h).bare

/-- Twins that are touched stay twins. -/
theorem Twin.touch {d d' : Context} (h : Twin c c') (hc : ReflTransGen Touch c d)
    (hc' : ReflTransGen Touch c' d') : Twin d d' where
  left := Context.sound_of_touches hc h.left
  right := Context.sound_of_touches hc' h.right
  bare := (Context.spared_of_touches hc').bare.trans
    (h.bare.trans (Context.spared_of_touches hc).bare.symm)

theorem agrees_pure {a a' : α} (h : R a a') : Agrees R (pure a : Work ε α) (pure a') :=
  fun _ _ _ => .ok h

theorem agrees_throw {e : ε} : Agrees R (throw e : Work ε α) (throw e) := fun _ _ _ => .error

theorem agrees_liftExcept {r r' : Except ε α} (h : Agree R r r') :
    Agrees R (liftM r : Work ε α) (liftM r') := fun c c' _ => by
  rwa [outcome_liftExcept, outcome_liftExcept]

theorem Agrees.lift {w w' : Work ResourceError α} (h : Agrees R w w') :
    Agrees R (liftM w : Work CompileError α) (liftM w') := fun c c' ht => by
  rw [outcome_lift, outcome_lift]
  exact (h c c' ht).mapError

theorem Agrees.imp {R' : α → α → Prop} (h : Agrees R w w') (hr : ∀ a a', R a a' → R' a a') :
    Agrees R' w w' := fun c c' ht => (h c c' ht).imp hr

theorem outcome_bind_of_ok {a : α} (h : w c = .ok a c') :
    outcome (w >>= f) c = outcome (f a) c' := by
  unfold outcome
  rw [bind_of_ok h]

theorem outcome_bind_of_error {e : ε} (h : w c = .error e c') :
    outcome (w >>= f) c = .error e := outcome_error (bind_of_error h)

theorem Agrees.bind (hw : Agrees R w w') (htouch : Runs Touch w) (htouch' : Runs Touch w')
    (hf : ∀ a a', R a a' → Agrees S (f a) (f' a')) : Agrees S (w >>= f) (w' >>= f') := by
  intro c c' ht
  have hout := hw c c' ht
  cases h : w c with
  | error e d =>
    rw [outcome_error h] at hout
    rw [outcome_bind_of_error h,
      outcome_bind_of_error (eq_error_of_outcome (hout.eq_error rfl))]
    exact .error
  | ok a d =>
    cases h' : w' c' with
    | error e d' =>
      rw [outcome_ok h, outcome_error h'] at hout
      cases hout
    | ok a' d' =>
      rw [outcome_ok h, outcome_ok h'] at hout
      cases hout with
      | ok hr =>
        rw [outcome_bind_of_ok h, outcome_bind_of_ok h']
        exact hf a a' hr d d' (ht.touch (htouch.of_eq_ok h) (htouch'.of_eq_ok h'))

/-- Work that yields the same value, and what follows it. -/
theorem Agrees.bind_eq (hw : Agrees Eq w w) (htouch : Runs Touch w)
    (hf : ∀ a, Agrees S (f a) (f' a)) : Agrees S (w >>= f) (w >>= f') :=
  hw.bind htouch htouch fun a _ ha => ha ▸ hf a

/-- Reading the context: what follows must agree whichever twins are read. -/
theorem agrees_context {g g' : Context → Work ε β}
    (h : ∀ c c', Twin c c' → Agrees S (g c) (g' c')) :
    Agrees S (Work.context >>= g) (Work.context >>= g') := fun c c' ht => h c c' ht c c' ht

/-- A check that a function makes of what is the same. -/
theorem Agrees.except {r r' : Except ε α} (hr : r' = r) (hf : ∀ a, Agrees S (f a) (f' a)) :
    Agrees S ((liftM r : Work ε α) >>= f) ((liftM r' : Work ε α) >>= f') := by
  subst hr
  refine (agrees_liftExcept (.of_eq rfl)).bind runs_liftExcept runs_liftExcept fun a a' ha => ?_
  exact ha ▸ hf a

/-- A choice by what is the same. -/
theorem Agrees.ite {p : Prop} [Decidable p] {v v' : Work ε α} (hv : Agrees R v v')
    (hw : Agrees R w w') : Agrees R (if p then v else w) (if p then v' else w') := by
  by_cases h : p
  · rw [if_pos h, if_pos h]
    exact hv
  · rw [if_neg h, if_neg h]
    exact hw

/-- A check of what is the same. -/
theorem Agrees.check {p p' : Prop} [Decidable p] [Decidable p'] {e e' : ε}
    {g g' : PUnit → Work ε α} (hp : p ↔ p') (he : e = e') (h : Agrees R w w') :
    Agrees R (if p then throw e >>= g else w) (if p' then throw e' >>= g' else w') := by
  by_cases hc : p
  · rw [if_pos hc, if_pos (hp.1 hc), he]
    exact fun _ _ _ => .error
  · rw [if_neg hc, if_neg fun h' => hc (hp.2 h')]
    exact h

theorem Agrees.mapM {τ' : Type} {P : τ → τ' → Prop} {g : τ → Work ε α} {g' : τ' → Work ε α}
    (hg : ∀ a a', P a a' → Agrees R (g a) (g' a')) (htouch : ∀ a, Runs Touch (g a))
    (htouch' : ∀ a, Runs Touch (g' a)) {as : List τ} {as' : List τ'} (h : List.Forall₂ P as as') :
    Agrees (List.Forall₂ R) (as.mapM g) (as'.mapM g') := by
  induction h with
  | nil => exact agrees_pure .nil
  | cons ha _ ih =>
    rw [List.mapM_cons, List.mapM_cons]
    refine (hg _ _ ha).bind (htouch _) (htouch' _) fun b b' hb => ?_
    exact ih.bind (.mapM htouch _) (.mapM htouch' _) fun bs bs' hbs => agrees_pure (.cons hb hbs)

end Rules

/-! ## Resources of twins -/

section Stores

variable {c c' : Context} {R : α → α → Prop} {id : ResourceId}

namespace Twin

theorem symm (h : Twin c c') : Twin c' c := ⟨h.right, h.left, h.bare.symm⟩

theorem buffers (h : Twin c c') : c'.buffers.map Buffer.bare = c.buffers.map Buffer.bare :=
  (congrArg Context.buffers h.bare : c'.bare.buffers = c.bare.buffers)

theorem textures (h : Twin c c') : c'.textures.map Texture.bare = c.textures.map Texture.bare :=
  (congrArg Context.textures h.bare : c'.bare.textures = c.bare.textures)

theorem samplers (h : Twin c c') : c'.samplers.map Sampler.bare = c.samplers.map Sampler.bare :=
  (congrArg Context.samplers h.bare : c'.bare.samplers = c.bare.samplers)

theorem shaders (h : Twin c c') : c'.shaders.map Shader.bare = c.shaders.map Shader.bare :=
  (congrArg Context.shaders h.bare : c'.bare.shaders = c.bare.shaders)

theorem surface (h : Twin c c') : c'.device.surface = c.device.surface :=
  (congrArg (fun c : Context => c.device.surface) h.bare :
    c'.bare.device.surface = c.bare.device.surface)

theorem limits (h : Twin c c') : c'.device.limits = c.device.limits :=
  (congrArg (fun c : Context => c.device.limits) h.bare :
    c'.bare.device.limits = c.bare.device.limits)

end Twin

/-- An action on a resource agrees if it does so on two resources that are the same when bare. -/
theorem agrees_on {shelf : Shelf τ} {action : Action τ α} {f : τ → β}
    (hshelf : ∀ c c', Twin c c' → (shelf.get c').map f = (shelf.get c).map f)
    (h : ∀ c c' a a', Twin c c' → (shelf.get c).get? id = some a →
      (shelf.get c').get? id = some a' → f a' = f a →
      Agree R (outcome action ⟨a, c.device⟩) (outcome action ⟨a', c'.device⟩)) :
    Agrees R (Work.on shelf id action) (Work.on shelf id action) := by
  intro c c' ht
  have hmap := hshelf c c' ht
  obtain ⟨ha, ha'⟩ | ⟨a, a', ha, ha', heq⟩ := Store.get?_of_map hmap id
  · rw [outcome_error (on_of_none ha), outcome_error (on_of_none ha'), Store.kind_of_map hmap]
    exact .error
  · rw [outcome_on ha, outcome_on ha']
    exact h c c' a a' ht ha ha' heq

/-- Under an id of twins there are resources that are the same when bare, or there is none. -/
theorem agrees_find {shelf : Shelf τ} {f : τ → β}
    (hshelf : ∀ c c', Twin c c' → (shelf.get c').map f = (shelf.get c).map f) :
    Agrees (fun a a' => f a' = f a) (Work.find shelf id) (Work.find shelf id) := by
  intro c c' ht
  have hmap := hshelf c c' ht
  obtain ⟨ha, ha'⟩ | ⟨a, a', ha, ha', heq⟩ := Store.get?_of_map hmap id
  · rw [outcome_error (find_of_none ha), outcome_error (find_of_none ha'), Store.kind_of_map hmap]
    exact .error
  · rw [outcome_ok (find_of_some ha), outcome_ok (find_of_some ha')]
    exact .ok heq

/-- What the device yields may differ. -/
theorem agrees_call {f f' : Device → α × Device} :
    Agrees (fun _ _ => True) (Work.call f : Work ε α) (Work.call f') := fun _ _ _ => .ok trivial

theorem agrees_bufferHandle :
    Agrees (fun _ _ => True) (Work.on .buffers id Buffer.handle)
      (Work.on .buffers id Buffer.handle) := by
  refine agrees_on (f := Buffer.bare) (fun _ _ ht => ht.buffers) fun c c' b b' _ _ _ _ => ?_
  obtain ⟨serial, l, h⟩ := Buffer.exists_handle_eq_ok ⟨b, c.device⟩
  obtain ⟨serial', l', h'⟩ := Buffer.exists_handle_eq_ok ⟨b', c'.device⟩
  rw [outcome_ok h, outcome_ok h']
  exact .ok trivial

theorem agrees_samplerHandle :
    Agrees (fun _ _ => True) (Work.on .samplers id Sampler.handle)
      (Work.on .samplers id Sampler.handle) := by
  refine agrees_on (f := Sampler.bare) (fun _ _ ht => ht.samplers) fun c c' s s' _ _ _ _ => ?_
  obtain ⟨serial, l, h⟩ := Sampler.exists_handle_eq_ok ⟨s, c.device⟩
  obtain ⟨serial', l', h'⟩ := Sampler.exists_handle_eq_ok ⟨s', c'.device⟩
  rw [outcome_ok h, outcome_ok h']
  exact .ok trivial

/-- Whether a texture of twins can be bound does not depend on what binding has left on it. -/
theorem agrees_bindView (storage : Bool) :
    Agrees (fun _ _ => True) (Work.on .textures id (Texture.bindView storage))
      (Work.on .textures id (Texture.bindView storage)) := by
  refine agrees_on (f := Texture.bare) (fun _ _ ht => ht.textures)
    fun c c' t t' ht hget hget' hbare => ?_
  have hsound := (ht.left.textures id t hget).2
  have hsound' := (ht.right.textures id t' hget').2
  have hbindable : t'.bindable c'.device storage = t.bindable c.device storage :=
    Texture.bindable_congr hbare ht.surface
  obtain ⟨e, l, he, h⟩ | ⟨hok, v, l, h, -⟩ :=
    Texture.bindView_spec (l := ⟨t, c.device⟩) storage hsound
  · obtain ⟨e', l', he', h'⟩ | ⟨hok', -⟩ :=
      Texture.bindView_spec (l := ⟨t', c'.device⟩) storage hsound'
    · have heq : e' = e := Except.error.inj (he'.symm.trans (hbindable.trans he))
      rw [outcome_error h, outcome_error h', heq]
      exact .error
    · exact nomatch he.symm.trans (hbindable.symm.trans hok')
  · obtain ⟨e', l', he', -⟩ | ⟨-, v', l', h', -⟩ :=
      Texture.bindView_spec (l := ⟨t', c'.device⟩) storage hsound'
    · exact nomatch hok.symm.trans (hbindable.symm.trans he')
    · rw [outcome_ok h, outcome_ok h']
      exact .ok trivial

end Stores

end PassForge
