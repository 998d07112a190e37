import Mathlib.Data.List.Forall2
import Mathlib.Logic.Relation
import PassForge.Context.Basic

/-!
# Runs

Work on a context and an action on a resource are alike: both change a state, yield a value or fail,
and keep what they did before they failed.

* `after` is the state that a run leaves and `outcome` what it yields.
* `Runs Step w`: whatever state `w` starts from, it leaves one that finitely many steps of a relation
  lead to. `RunsFrom` says so of one state. The rules go along the program: `RunsFrom.bind`,
  `RunsFrom.forM`.
* `Succeeds I w`: from every state with an invariant, `w` yields a value and keeps the invariant.
* `bind_eq_ok` and `bind_eq_error` invert a run of a sequence; `exists_bind_eq_ok_iff` says when it
  yields a value.
-/

namespace PassForge

open Relation (ReflTransGen)

variable {ε σ α β : Type}

/-- The state that a run leaves, whether it yields a value or fails. -/
def after (w : EStateM ε σ α) (s : σ) : σ :=
  match w s with
  | .ok _ s' | .error _ s' => s'

/-- What a run yields, without the state that it leaves. -/
def outcome (w : EStateM ε σ α) (s : σ) : Except ε α :=
  match w s with
  | .ok a _ => .ok a
  | .error e _ => .error e

section Results

variable {w : EStateM ε σ α} {f : α → EStateM ε σ β} {s s' : σ} {a : α} {b : β} {e : ε}

theorem after_ok (h : w s = .ok a s') : after w s = s' := by rw [after, h]

theorem after_error (h : w s = .error e s') : after w s = s' := by rw [after, h]

theorem outcome_ok (h : w s = .ok a s') : outcome w s = .ok a := by rw [outcome, h]

theorem outcome_error (h : w s = .error e s') : outcome w s = .error e := by rw [outcome, h]

/-- A run that yields a value ends in the state that it leaves. -/
theorem eq_ok_of_outcome (h : outcome w s = .ok a) : w s = .ok a (after w s) := by
  unfold outcome at h
  unfold after
  cases hw : w s with
  | ok a' s' =>
    rw [hw] at h
    cases h
    rfl
  | error e s' =>
    rw [hw] at h
    cases h

/-- A run that fails ends in the state that it leaves. -/
theorem eq_error_of_outcome (h : outcome w s = .error e) : w s = .error e (after w s) := by
  unfold outcome at h
  unfold after
  cases hw : w s with
  | ok a' s' =>
    rw [hw] at h
    cases h
  | error e' s' =>
    rw [hw] at h
    cases h
    rfl

theorem bind_of_ok (h : w s = .ok a s') : (w >>= f) s = f a s' := by
  show EStateM.bind w f s = _
  rw [EStateM.bind, h]

theorem after_bind_of_ok (h : w s = .ok a s') : after (w >>= f) s = after (f a) s' := by
  rw [after, bind_of_ok h, after]

theorem bind_of_error (h : w s = .error e s') : (w >>= f) s = .error e s' := by
  show EStateM.bind w f s = _
  rw [EStateM.bind, h]

/-- A run that drops what it yields leaves the same. -/
theorem after_discard (w : EStateM ε σ α) (s : σ) :
    after (do let _ ← w : EStateM ε σ Unit) s = after w s := by
  cases h : w s with
  | ok a s' =>
    have hdiscard : (w >>= fun _ => pure () : EStateM ε σ Unit) s = .ok () s' := bind_of_ok h
    exact (after_ok hdiscard).trans (after_ok h).symm
  | error e s' => exact (after_error (bind_of_error h)).trans (after_error h).symm

/-- A sequence that yields a value: both of its parts did. -/
theorem bind_eq_ok {s'' : σ} (h : (w >>= f) s = .ok b s'') :
    ∃ a s', w s = .ok a s' ∧ f a s' = .ok b s'' := by
  cases hw : w s with
  | ok a s' =>
    rw [bind_of_ok hw] at h
    exact ⟨a, s', rfl, h⟩
  | error e s' =>
    rw [bind_of_error hw] at h
    cases h

/-- A sequence yields a value iff both of its parts do. -/
theorem exists_bind_eq_ok_iff : (∃ b s', (w >>= f) s = .ok b s') ↔
    ∃ a s₁, w s = .ok a s₁ ∧ ∃ b s', f a s₁ = .ok b s' := by
  constructor
  · rintro ⟨b, s', h⟩
    obtain ⟨a, s₁, ha, hb⟩ := bind_eq_ok h
    exact ⟨a, s₁, ha, b, s', hb⟩
  · rintro ⟨a, s₁, ha, b, s', hb⟩
    exact ⟨b, s', (bind_of_ok ha).trans hb⟩

/-- A sequence that fails: its first part did, or the second after the first. -/
theorem bind_eq_error {s'' : σ} (h : (w >>= f) s = .error e s'') :
    w s = .error e s'' ∨ ∃ a s', w s = .ok a s' ∧ f a s' = .error e s'' := by
  cases hw : w s with
  | ok a s' =>
    rw [bind_of_ok hw] at h
    exact .inr ⟨a, s', rfl, h⟩
  | error e s' =>
    rw [bind_of_error hw] at h
    cases h
    exact .inl rfl

/-- A sequence whose second part never fails after the first: if it fails, the first part did. -/
theorem bind_eq_error_of_finishes {P : α → β → σ → σ → Prop} {s'' : σ}
    (hf : ∀ a s₁, w s = .ok a s₁ → ∃ b s₂, f a s₁ = .ok b s₂ ∧ P a b s₁ s₂)
    (h : (w >>= f) s = .error e s'') : w s = .error e s'' := by
  obtain h | ⟨a, s₁, hw, h⟩ := bind_eq_error h
  · exact h
  · obtain ⟨b, s₂, hb, -⟩ := hf a s₁ hw
    exact nomatch hb.symm.trans h

/-- If such a sequence yields a value, it has what the second part establishes. -/
theorem bind_eq_ok_of_finishes {P : α → β → σ → σ → Prop} {s'' : σ}
    (hf : ∀ a s₁, w s = .ok a s₁ → ∃ b s₂, f a s₁ = .ok b s₂ ∧ P a b s₁ s₂)
    (h : (w >>= f) s = .ok b s'') : ∃ a s₁, w s = .ok a s₁ ∧ P a b s₁ s'' := by
  obtain ⟨a, s₁, hw, h⟩ := bind_eq_ok h
  obtain ⟨b', s₂, hb, hP⟩ := hf a s₁ hw
  cases hb.symm.trans h
  exact ⟨a, s₁, hw, hP⟩

end Results

/-- A relation between optional values is weakened value by value. -/
theorem optionRel_imp {R S : α → β → Prop} {a : Option α} {b : Option β} (h : Option.Rel R a b)
    (hrs : ∀ a b, R a b → S a b) : Option.Rel S a b := by
  cases h with
  | none => exact .none
  | some h => exact .some (hrs _ _ h)

/-! ## Steps -/

/-- From a state, `w` leaves one that finitely many steps lead to. -/
def RunsFrom (Step : σ → σ → Prop) (w : EStateM ε σ α) (s : σ) : Prop :=
  ReflTransGen Step s (after w s)

/-- From every state, `w` leaves one that finitely many steps lead to. -/
def Runs (Step : σ → σ → Prop) (w : EStateM ε σ α) : Prop := ∀ s, RunsFrom Step w s

section Steps

variable {Step : σ → σ → Prop} {w : EStateM ε σ α} {f : α → EStateM ε σ β} {s s' : σ}

theorem RunsFrom.of_after (h : after w s = s') (hs : ReflTransGen Step s s') :
    RunsFrom Step w s := by
  unfold RunsFrom
  rwa [h]

theorem RunsFrom.mono {Step' : σ → σ → Prop} (hs : ∀ a b, Step a b → Step' a b)
    (h : RunsFrom Step w s) : RunsFrom Step' w s := ReflTransGen.mono hs _ _ h

theorem RunsFrom.bind (hw : RunsFrom Step w s)
    (hf : ∀ a s', w s = .ok a s' → RunsFrom Step (f a) s') : RunsFrom Step (w >>= f) s := by
  cases h : w s with
  | ok a s' =>
    have hs : ReflTransGen Step s s' := after_ok h ▸ hw
    unfold RunsFrom after
    rw [bind_of_ok h]
    exact hs.trans (hf a s' h)
  | error e s' => exact .of_after (after_error (bind_of_error h)) (after_error h ▸ hw)

/-- What yields a value has taken steps to the state that it ends in. -/
theorem Runs.of_eq_ok {a : α} (h : Runs Step w) (hw : w s = .ok a s') : ReflTransGen Step s s' :=
  (after_ok hw).subst (h s)

/-- What fails has taken steps to the state that it leaves. -/
theorem Runs.of_eq_error {e : ε} (h : Runs Step w) (hw : w s = .error e s') :
    ReflTransGen Step s s' := (after_error hw).subst (h s)

theorem runs_pure (a : α) : Runs Step (pure a : EStateM ε σ α) := fun _ => .refl

theorem runs_throw (e : ε) : Runs Step (throw e : EStateM ε σ α) := fun _ => .refl

theorem Runs.bind (hw : Runs Step w) (hf : ∀ a, Runs Step (f a)) : Runs Step (w >>= f) :=
  fun s => (hw s).bind fun a s' _ => hf a s'

theorem Runs.map (hw : Runs Step w) (g : α → β) : Runs Step (g <$> w) := by
  rw [map_eq_pure_bind]
  exact hw.bind fun a => runs_pure (g a)

theorem Runs.seq {g : EStateM ε σ (α → β)} (hg : Runs Step g) (hw : Runs Step w) :
    Runs Step (g <*> w) := by
  rw [seq_eq_bind_map]
  exact hg.bind fun h => hw.map h

/-- What every step leaves, finitely many steps leave. -/
theorem eq_of_steps {f : σ → β} (h : ReflTransGen (fun s s' => f s' = f s) s s') : f s' = f s := by
  induction h with
  | refl => rfl
  | tail _ h ih => exact h.trans ih

/-- What every step leaves, a run leaves. -/
theorem Runs.eq {f : σ → β} (h : Runs (fun s s' => f s' = f s) w) (s : σ) : f (after w s) = f s :=
  eq_of_steps (h s)

/-- A check that fails takes no step. -/
theorem RunsFrom.check {p : Prop} [Decidable p] {e : ε} {g : PUnit → EStateM ε σ α}
    (h : ¬p → RunsFrom Step w s) : RunsFrom Step (if p then throw e >>= g else w) s := by
  split
  · exact .refl
  · exact h ‹_›

/-- A check that a function makes takes no step. -/
theorem RunsFrom.checkExcept {r : Except ε β} {g : β → EStateM ε σ α}
    (h : ∀ b, r = .ok b → RunsFrom Step (g b) s) :
    RunsFrom Step (MonadExcept.ofExcept r >>= g) s := by
  cases r with
  | error e => exact .refl
  | ok b => exact h b rfl

/-- A loop takes the steps of its rounds, if what a round needs holds at first and after every
round. -/
theorem RunsFrom.forM {g : α → EStateM ε σ PUnit} {I : σ → Prop}
    (round : ∀ a s, I s → RunsFrom Step (g a) s)
    (keep : ∀ a s u s', I s → g a s = .ok u s' → I s') (l : List α) (hs : I s) :
    RunsFrom Step (l.forM g) s := by
  induction l generalizing s with
  | nil => exact .refl
  | cons a l ih => exact (round a s hs).bind fun u s' h => ih (keep a s u s' hs h)

theorem Runs.forM {g : α → EStateM ε σ PUnit} (round : ∀ a, Runs Step (g a)) (l : List α) :
    Runs Step (l.forM g) := fun _ =>
  RunsFrom.forM (I := fun _ => True) (fun a s _ => round a s) (fun _ _ _ _ _ _ => trivial) l
    trivial

theorem Runs.mapM {g : α → EStateM ε σ β} (round : ∀ a, Runs Step (g a)) (l : List α) :
    Runs Step (l.mapM g) := by
  induction l with
  | nil => exact runs_pure []
  | cons a l ih =>
    rw [List.mapM_cons]
    exact (round a).bind fun b => ih.bind fun bs => runs_pure _

/-- A loop that fails: a round of it does, after steps of the rounds before. -/
theorem forM_eq_error {g : α → EStateM ε σ PUnit} {l : List α} {e : ε} (steps : ∀ a, Runs Step (g a))
    (h : l.forM g s = .error e s') :
    ∃ a ∈ l, ∃ s₁, ReflTransGen Step s s₁ ∧ g a s₁ = .error e s' := by
  induction l generalizing s with
  | nil => cases h
  | cons a l ih =>
    obtain h | ⟨u, s₁, hfirst, h⟩ := bind_eq_error h
    · exact ⟨a, List.mem_cons_self, s, .refl, h⟩
    · obtain ⟨a', ha', s₂, hsteps, hround⟩ := ih h
      exact ⟨a', List.mem_cons_of_mem a ha', s₂, ((steps a).of_eq_ok hfirst).trans hsteps, hround⟩

/-- A mapping that fails: a round of it does, after steps of the rounds before. -/
theorem mapM_eq_error {g : α → EStateM ε σ β} {l : List α} {e : ε} (steps : ∀ a, Runs Step (g a))
    (h : l.mapM g s = .error e s') :
    ∃ a ∈ l, ∃ s₁, ReflTransGen Step s s₁ ∧ g a s₁ = .error e s' := by
  induction l generalizing s with
  | nil => cases h
  | cons a l ih =>
    rw [List.mapM_cons] at h
    obtain h | ⟨b, s₁, hfirst, h⟩ := bind_eq_error h
    · exact ⟨a, List.mem_cons_self, s, .refl, h⟩
    · obtain h | ⟨bs, s₂, -, h⟩ := bind_eq_error h
      · obtain ⟨a', ha', s₂, hsteps, hround⟩ := ih h
        exact ⟨a', List.mem_cons_of_mem a ha', s₂, ((steps a).of_eq_ok hfirst).trans hsteps, hround⟩
      · cases h

/-- What every round of a mapping establishes and no step destroys holds of all its values in the
end, if what a round needs holds at first and no step destroys it either. -/
theorem forall₂_of_mapM {g : α → EStateM ε σ β} {I : σ → Prop} {P : α → β → σ → Prop} {l : List α}
    {bs : List β} (steps : ∀ a, Runs Step (g a))
    (keepI : ∀ s s', ReflTransGen Step s s' → I s → I s')
    (keepP : ∀ a b s s', ReflTransGen Step s s' → P a b s → P a b s')
    (round : ∀ a ∈ l, ∀ s b s', I s → g a s = .ok b s' → P a b s') (hs : I s)
    (h : l.mapM g s = .ok bs s') : List.Forall₂ (fun a b => P a b s') l bs := by
  induction l generalizing s bs with
  | nil =>
    cases h
    exact .nil
  | cons a l ih =>
    rw [List.mapM_cons] at h
    obtain ⟨b, s₁, hb, h₁⟩ := bind_eq_ok h
    obtain ⟨bs', s₂, hbs, h₂⟩ := bind_eq_ok h₁
    cases h₂
    have hhead : ReflTransGen Step s s₁ := (steps a).of_eq_ok hb
    have htail : ReflTransGen Step s₁ s' := (Runs.mapM steps l).of_eq_ok hbs
    refine .cons (keepP a b s₁ s' htail (round a List.mem_cons_self s b s₁ hs hb)) ?_
    exact ih (fun a' ha => round a' (List.mem_cons_of_mem a ha)) (keepI s s₁ hhead hs) hbs

end Steps

/-! ## Runs that succeed -/

/-- From every state with an invariant, a run yields a value and leaves such a state. -/
def Succeeds (I : σ → Prop) (w : EStateM ε σ α) : Prop := ∀ s, I s → ∃ a s', w s = .ok a s' ∧ I s'

section Succeeds

variable {I : σ → Prop} {w : EStateM ε σ α} {f : α → EStateM ε σ β}

theorem succeeds_pure (a : α) : Succeeds I (pure a : EStateM ε σ α) := fun s hs => ⟨a, s, rfl, hs⟩

namespace Succeeds

theorem bind (hw : Succeeds I w) (hf : ∀ a, Succeeds I (f a)) : Succeeds I (w >>= f) := by
  intro s hs
  obtain ⟨a, s₁, ha, hs₁⟩ := hw s hs
  obtain ⟨b, s₂, hb, hs₂⟩ := hf a s₁ hs₁
  exact ⟨b, s₂, (bind_of_ok ha).trans hb, hs₂⟩

theorem map (hw : Succeeds I w) (g : α → β) : Succeeds I (g <$> w) := by
  rw [map_eq_pure_bind]
  exact hw.bind fun a => succeeds_pure (g a)

theorem seq {g : EStateM ε σ (α → β)} (hg : Succeeds I g) (hw : Succeeds I w) :
    Succeeds I (g <*> w) := by
  rw [seq_eq_bind_map]
  exact hg.bind fun h => hw.map h

theorem mapM {g : α → EStateM ε σ β} {l : List α} (hg : ∀ a ∈ l, Succeeds I (g a)) :
    Succeeds I (l.mapM g) := by
  induction l with
  | nil => exact succeeds_pure []
  | cons a l ih =>
    rw [List.mapM_cons]
    have ⟨ha, hl⟩ := List.forall_mem_cons.1 hg
    exact ha.bind fun b => (ih hl).bind fun bs => succeeds_pure _

end Succeeds

end Succeeds

/-! ## Elementary actions -/

namespace Action

variable {τ : Type} {l : Live τ}

theorem object_bind {f : τ → Action τ α} : (object >>= f) l = f l.object l := rfl

theorem call_bind {g : Device → β × Device} {f : β → Action τ α} :
    (call g >>= f) l = f (g l.device).1 { l with device := (g l.device).2 } := rfl

end Action

section Action

variable {τ : Type} {Step : Live τ → Live τ → Prop} {l : Live τ}

theorem RunsFrom.object {f : τ → Action τ α} (h : RunsFrom Step (f l.object) l) :
    RunsFrom Step (Action.object >>= f) l := h

theorem after_surface : after Action.surface l = l := by
  unfold after Action.surface
  cases l.device.surface <;> rfl

theorem RunsFrom.log {e : Event} (h : Step l { l with device := l.device.log e }) :
    RunsFrom Step (Action.log e) l := .single h

/-- Logging an event for each element of a list. -/
theorem forM_log (f : α → Event) (as : List α) :
    (as.forM fun a => Action.log (f a)) l =
      .ok () { l with device := as.foldl (fun d a => d.log (f a)) l.device } := by
  induction as generalizing l with
  | nil => rfl
  | cons a as ih => exact ih

end Action

/-! ## Lifted runs -/

section Lift

variable {Step : Context → Context → Prop} {w : Work ResourceError α} {r : Except ε α}
  {c c' : Context} {a : α}

theorem lift_apply : (liftM w : Work CompileError α) c = match w c with
    | .ok a c' => .ok a c'
    | .error e c' => .error (.resource e) c' := rfl

theorem after_lift : after (liftM w : Work CompileError α) c = after w c := by
  unfold after
  rw [lift_apply]
  cases w c <;> rfl

theorem lift_eq_ok : (liftM w : Work CompileError α) c = .ok a c' ↔ w c = .ok a c' := by
  rw [lift_apply]
  cases w c <;> simp

theorem outcome_lift :
    outcome (liftM w : Work CompileError α) c = (outcome w c).mapError CompileError.resource := by
  unfold outcome
  rw [lift_apply]
  cases w c <;> rfl

/-- Lifting goes along a sequence. -/
theorem lift_bind {f : α → Work ResourceError β} :
    (liftM (w >>= f) : Work CompileError β) = liftM w >>= fun a => liftM (f a) := by
  funext c
  rw [lift_apply]
  cases h : w c with
  | ok a c' => rw [bind_of_ok h, bind_of_ok (lift_eq_ok.2 h), lift_apply]
  | error e c' =>
    rw [bind_of_error h]
    exact (bind_of_error (by rw [lift_apply, h])).symm

theorem Runs.lift (h : Runs Step w) : Runs Step (liftM w : Work CompileError α) := fun c =>
  .of_after after_lift (h c)

theorem after_liftExcept : after (liftM r : Work ε α) c = c := by
  cases r <;> rfl

theorem liftExcept_eq_ok : (liftM r : Work ε α) c = .ok a c' ↔ r = .ok a ∧ c' = c := by
  cases r with
  | ok b =>
    constructor
    · intro h
      cases h
      exact ⟨rfl, rfl⟩
    · rintro ⟨h, rfl⟩
      cases h
      rfl
  | error e => exact ⟨fun h => (nomatch h), fun h => (nomatch h.1)⟩

theorem liftExcept_eq_error {e : ε} :
    (liftM r : Work ε α) c = .error e c' ↔ r = .error e ∧ c' = c := by
  cases r with
  | ok a => exact ⟨fun h => (nomatch h), fun h => (nomatch h.1)⟩
  | error e' =>
    constructor
    · intro h
      cases h
      exact ⟨rfl, rfl⟩
    · rintro ⟨h, rfl⟩
      cases h
      rfl

/-- Past a check that a function made, its value is there and nothing has changed. -/
theorem liftExcept_bind_eq_ok {f : α → Work ε β} {b : β}
    (h : ((liftM r : Work ε α) >>= f) c = .ok b c') : ∃ a, r = .ok a ∧ f a c = .ok b c' := by
  obtain ⟨a, c₁, ha, hf⟩ := bind_eq_ok h
  obtain ⟨hr, rfl⟩ := liftExcept_eq_ok.1 ha
  exact ⟨a, hr, hf⟩

/-- A sequence that begins with a check yields a value iff the check succeeds and the rest does. -/
theorem exists_liftExcept_bind_eq_ok_iff {f : α → Work ε β} :
    (∃ b c', ((liftM r : Work ε α) >>= f) c = .ok b c') ↔
      ∃ a, r = .ok a ∧ ∃ b c', f a c = .ok b c' := by
  rw [exists_bind_eq_ok_iff]
  constructor
  · rintro ⟨a, c₁, ha, h⟩
    obtain ⟨hr, rfl⟩ := liftExcept_eq_ok.1 ha
    exact ⟨a, hr, h⟩
  · rintro ⟨a, hr, h⟩
    exact ⟨a, c, liftExcept_eq_ok.2 ⟨hr, rfl⟩, h⟩

theorem context_bind {g : Context → Work ε β} : (Work.context >>= g) c = g c c := rfl

theorem call_bind {γ : Type} {f : Device → γ × Device} {g : γ → Work ε β} :
    (Work.call f >>= g) c = g (f c.device).1 { c with device := (f c.device).2 } := rfl

theorem outcome_liftExcept : outcome (liftM r : Work ε α) c = r := by
  cases r <;> rfl

theorem runs_liftExcept : Runs Step (liftM r : Work ε α) := fun _ =>
  .of_after after_liftExcept .refl

theorem runs_context : Runs Step (Work.context : Work ε Context) := fun _ => .refl

end Lift

end PassForge
