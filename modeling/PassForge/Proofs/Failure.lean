import PassForge.Proofs.Run

/-!
# Which errors a run fails with

* `FailsOnly P r`: if a check fails, its error satisfies `P`.
* `ThrowsOnly P w`: if work fails, from whatever context, its error satisfies `P`.

The rules go along the program. After a part that yields a value, the rest may use that it did
(`ThrowsOnly.bind`).
-/

namespace PassForge

variable {ε α β τ : Type} {P : ε → Prop}

/-- If a check fails, its error satisfies a condition. -/
def FailsOnly (P : ε → Prop) (r : Except ε α) : Prop := ∀ e, r = .error e → P e

/-- If work fails, its error satisfies a condition. -/
def ThrowsOnly (P : ε → Prop) (w : Work ε α) : Prop := ∀ c e c', w c = .error e c' → P e

/-! ## Checks -/

section FailsOnly

variable {r : Except ε α} {f : α → Except ε β}

theorem failsOnly_ok (a : α) : FailsOnly P (.ok a : Except ε α) := fun _ h => nomatch h

theorem failsOnly_error {e : ε} (h : P e) : FailsOnly P (.error e : Except ε α) := fun _ he => by
  cases he
  exact h

namespace FailsOnly

theorem bind (hr : FailsOnly P r) (hf : ∀ a, r = .ok a → FailsOnly P (f a)) :
    FailsOnly P (r >>= f) := by
  cases r with
  | error e => exact failsOnly_error (hr e rfl)
  | ok a => exact hf a rfl

theorem map (hr : FailsOnly P r) (g : α → β) : FailsOnly P (g <$> r) := by
  cases r with
  | error e => exact failsOnly_error (hr e rfl)
  | ok a => exact failsOnly_ok (g a)

theorem ite {p : Prop} [Decidable p] {r' : Except ε α} (h : p → FailsOnly P r)
    (h' : ¬p → FailsOnly P r') : FailsOnly P (if p then r else r') := by
  by_cases hp : p
  · rw [if_pos hp]
    exact h hp
  · rw [if_neg hp]
    exact h' hp

theorem check {p : Prop} [Decidable p] {e : ε} {g : PUnit → Except ε α} (he : P e)
    (hr : FailsOnly P r) : FailsOnly P (if p then throw e >>= g else r) :=
  ite (fun _ => failsOnly_error he) fun _ => hr

theorem mapM {g : α → Except ε β} (hg : ∀ a, FailsOnly P (g a)) (as : List α) :
    FailsOnly P (as.mapM g) := by
  induction as with
  | nil => exact failsOnly_ok []
  | cons a as ih =>
    rw [List.mapM_cons]
    exact (hg a).bind fun b _ => ih.bind fun bs _ => failsOnly_ok _

theorem forM {g : α → Except ε PUnit} (hg : ∀ a, FailsOnly P (g a)) (as : List α) :
    FailsOnly P (as.forM g) := by
  induction as with
  | nil => exact failsOnly_ok PUnit.unit
  | cons a as ih => exact (hg a).bind fun _ _ => ih

theorem foldlM {g : β → α → Except ε β} (hg : ∀ b a, FailsOnly P (g b a)) (as : List α) (b : β) :
    FailsOnly P (as.foldlM g b) := by
  induction as generalizing b with
  | nil => exact failsOnly_ok b
  | cons a as ih =>
    rw [List.foldlM_cons]
    exact (hg b a).bind fun b' _ => ih b'

end FailsOnly

end FailsOnly

/-! ## Work -/

section ThrowsOnly

variable {w : Work ε α} {f : α → Work ε β}

theorem throwsOnly_pure (a : α) : ThrowsOnly P (pure a : Work ε α) := fun _ _ _ h => nomatch h

theorem throwsOnly_context : ThrowsOnly P (Work.context : Work ε Context) :=
  fun _ _ _ h => nomatch h

theorem throwsOnly_call (f : Device → α × Device) : ThrowsOnly P (Work.call f : Work ε α) :=
  fun _ _ _ h => nomatch h

theorem throwsOnly_throw {e : ε} (h : P e) : ThrowsOnly P (throw e : Work ε α) :=
  fun _ _ _ he => by
    cases he
    exact h

theorem throwsOnly_liftExcept {r : Except ε α} (h : FailsOnly P r) :
    ThrowsOnly P (liftM r : Work ε α) := fun _ e _ he =>
  h e (outcome_liftExcept.symm.trans (outcome_error he))

namespace ThrowsOnly

theorem imp {Q : ε → Prop} (h : ThrowsOnly P w) (hpq : ∀ e, P e → Q e) : ThrowsOnly Q w :=
  fun c e c' he => hpq e (h c e c' he)

theorem bind (hw : ThrowsOnly P w) (hf : ∀ c a c', w c = .ok a c' → ThrowsOnly P (f a)) :
    ThrowsOnly P (w >>= f) := by
  intro c e c' h
  obtain h | ⟨a, c₁, ha, h⟩ := bind_eq_error h
  · exact hw c e c' h
  · exact hf c a c₁ ha c₁ e c' h

theorem check {p : Prop} [Decidable p] {e : ε} {g : PUnit → Work ε α} (he : p → P e)
    (hw : ThrowsOnly P w) : ThrowsOnly P (if p then throw e >>= g else w) := by
  by_cases hp : p
  · rw [if_pos hp]
    exact throwsOnly_throw (he hp)
  · rw [if_neg hp]
    exact hw

theorem mapM {g : τ → Work ε α} {as : List τ} (hg : ∀ a ∈ as, ThrowsOnly P (g a)) :
    ThrowsOnly P (as.mapM g) := by
  induction as with
  | nil => exact throwsOnly_pure []
  | cons a as ih =>
    rw [List.mapM_cons]
    have ⟨ha, has⟩ := List.forall_mem_cons.1 hg
    exact ha.bind fun _ _ _ _ => (ih has).bind fun _ _ _ _ => throwsOnly_pure _

end ThrowsOnly

end ThrowsOnly

end PassForge
