import Mathlib.Data.List.Forall2

/-!
# Lists of checks

When a check that is made of every element of a list succeeds.

* `bind_eq_ok_iff`, `bind_eq_error_iff`: how a sequence of two checks comes out.
* `mapM_eq_ok_iff`: mapping succeeds with a list iff it succeeds element by element.
* `filterMap_toOption_of_mapM_eq_ok`: it then drops no element.
* `mapM_eq_error_iff`: it fails as the first element does for which it fails.
* `exists_mapM_eq_ok_iff`: mapping succeeds iff it does so for every element.
* `map_eq_of_forall₂`, `exists_mem_of_forall₂`: lists that are related element by element.
* `exists_first`: where a list has an element with a property, it has a first one.
* `forM_eq_ok_iff`: checking each element succeeds iff every check does.
-/

namespace PassForge

variable {ε α β : Type}

/-- A value of a sequence of two checks comes from a value of each. -/
theorem bind_eq_ok_iff {x : Except ε α} {f : α → Except ε β} {b : β} :
    (x >>= f) = .ok b ↔ ∃ a, x = .ok a ∧ f a = .ok b := by
  cases x with
  | error e => exact ⟨fun h => (nomatch h), fun ⟨_, h, _⟩ => (nomatch h)⟩
  | ok a => exact ⟨fun h => ⟨a, rfl, h⟩, fun ⟨_, h, h'⟩ => by cases h; exact h'⟩

/-- A sequence of two checks fails in the first, or in the second past the first. -/
theorem bind_eq_error_iff {x : Except ε α} {f : α → Except ε β} {e : ε} :
    (x >>= f) = .error e ↔ x = .error e ∨ ∃ a, x = .ok a ∧ f a = .error e := by
  cases x with
  | error e' => simp [bind, Except.bind]
  | ok a => simp [bind, Except.bind]

theorem map_eq_ok_iff {x : Except ε α} {f : α → β} {b : β} :
    (f <$> x) = .ok b ↔ ∃ a, x = .ok a ∧ f a = b := by
  cases x with
  | error e => exact ⟨fun h => (nomatch h), fun ⟨_, h, _⟩ => (nomatch h)⟩
  | ok a => exact ⟨fun h => ⟨a, rfl, Except.ok.inj h⟩, fun ⟨_, h, h'⟩ => by cases h; rw [← h']; rfl⟩

/-- Past a check that succeeded, its condition does not hold. -/
theorem of_check_eq_ok {p : Prop} [Decidable p] {e : ε} {g : PUnit → Except ε α} {w : Except ε α}
    {a : α} (h : (if p then throw e >>= g else w) = .ok a) : ¬p ∧ w = .ok a := by
  split at h
  · cases h
  · exact ⟨‹_›, h⟩

/-- Mapping succeeds with a list iff it succeeds element by element. -/
theorem mapM_eq_ok_iff {f : α → Except ε β} {as : List α} {bs : List β} :
    as.mapM f = .ok bs ↔ List.Forall₂ (fun a b => f a = .ok b) as bs := by
  induction as generalizing bs with
  | nil =>
    rw [List.mapM_nil, List.forall₂_nil_left_iff]
    exact ⟨fun h => by cases h; rfl, fun h => by subst h; rfl⟩
  | cons a as ih =>
    rw [List.mapM_cons, bind_eq_ok_iff, List.forall₂_cons_left_iff]
    constructor
    · rintro ⟨b, hb, h⟩
      obtain ⟨rest, hrest, h⟩ := bind_eq_ok_iff.1 h
      cases h
      exact ⟨b, rest, hb, ih.1 hrest, rfl⟩
    · rintro ⟨b, rest, hb, hrest, rfl⟩
      exact ⟨b, hb, bind_eq_ok_iff.2 ⟨rest, ih.2 hrest, rfl⟩⟩

/-- Mapping succeeds iff it does so for every element. -/
theorem exists_mapM_eq_ok_iff {f : α → Except ε β} {as : List α} :
    (∃ bs, as.mapM f = .ok bs) ↔ ∀ a ∈ as, ∃ b, f a = .ok b := by
  simp only [mapM_eq_ok_iff]
  induction as with
  | nil => simp
  | cons a as ih =>
    rw [List.forall_mem_cons, ← ih]
    simp only [List.forall₂_cons_left_iff]
    constructor
    · rintro ⟨_, b, bs, hb, hbs, rfl⟩
      exact ⟨⟨b, hb⟩, bs, hbs⟩
    · rintro ⟨⟨b, hb⟩, bs, hbs⟩
      exact ⟨_, b, bs, hb, hbs, rfl⟩

theorem toOption_eq_some_iff {x : Except ε α} {a : α} : x.toOption = some a ↔ x = .ok a := by
  cases x <;> simp [Except.toOption]

/-- Where mapping succeeds, it drops no element. -/
theorem filterMap_toOption_of_mapM_eq_ok {f : α → Except ε β} {as : List α} {bs : List β}
    (h : as.mapM f = .ok bs) : (as.filterMap fun a => (f a).toOption) = bs := by
  rw [mapM_eq_ok_iff] at h
  induction h with
  | nil => rfl
  | cons hab _ ih => rw [List.filterMap_cons, toOption_eq_some_iff.2 hab, ih]

/-- Mapping fails iff some element does past elements that do not. -/
theorem mapM_eq_error_iff {f : α → Except ε β} {as : List α} {e : ε} :
    as.mapM f = .error e ↔ ∃ before a after, as = before ++ a :: after ∧
      (∀ x ∈ before, ∃ b, f x = .ok b) ∧ f a = .error e := by
  induction as with
  | nil => simp [pure, Except.pure]
  | cons a as ih =>
    simp only [List.mapM_cons, bind_eq_error_iff, ih]
    constructor
    · rintro (h | ⟨b, hb, ⟨before, x, after, rfl, hbefore, hx⟩ | ⟨bs, -, h⟩⟩)
      · exact ⟨[], a, as, rfl, fun _ h' => absurd h' List.not_mem_nil, h⟩
      · exact ⟨a :: before, x, after, rfl, List.forall_mem_cons.2 ⟨⟨b, hb⟩, hbefore⟩, hx⟩
      · cases h
    · rintro ⟨before, x, after, heq, hbefore, hx⟩
      cases before with
      | nil =>
        cases heq
        exact .inl hx
      | cons a' before =>
        cases heq
        obtain ⟨⟨b, hb⟩, hrest⟩ := List.forall_mem_cons.1 hbefore
        exact .inr ⟨b, hb, .inl ⟨before, x, after, rfl, hrest, hx⟩⟩

/-- If some element has a property, one of them is the first. -/
theorem exists_first {p : α → Prop} {as : List α} (h : ∃ a ∈ as, p a) :
    ∃ before a after, as = before ++ a :: after ∧ p a ∧ ∀ x ∈ before, ¬p x := by
  induction as with
  | nil => simp at h
  | cons a as ih =>
    by_cases ha : p a
    · exact ⟨[], a, as, rfl, ha, fun _ hx => absurd hx List.not_mem_nil⟩
    · obtain ⟨before, x, after, rfl, hx, hbefore⟩ := ih (by simpa [ha] using h)
      exact ⟨a :: before, x, after, rfl, hx, List.forall_mem_cons.2 ⟨ha, hbefore⟩⟩

/-- Values that agree one by one make the same list. -/
theorem map_eq_of_forall₂ {α β γ : Type} {f : α → γ} {g : β → γ} {as : List α} {bs : List β}
    (h : List.Forall₂ (fun a b => f a = g b) as bs) : as.map f = bs.map g := by
  induction h with
  | nil => rfl
  | cons h _ ih => rw [List.map_cons, List.map_cons, h, ih]

/-- Where lists are related element by element, each element on the left has one on the right. -/
theorem exists_mem_of_forall₂ {R : α → β → Prop} {as : List α} {bs : List β}
    (h : List.Forall₂ R as bs) : ∀ a ∈ as, ∃ b ∈ bs, R a b := by
  induction h with
  | nil => exact fun _ ha => absurd ha List.not_mem_nil
  | cons hab _ ih =>
    simp only [List.forall_mem_cons, List.exists_mem_cons_iff]
    exact ⟨.inl hab, fun a ha => .inr (ih a ha)⟩

/-- Checking each element succeeds iff every check does. -/
theorem forM_eq_ok_iff {f : α → Except ε Unit} {as : List α} :
    as.forM f = .ok () ↔ ∀ a ∈ as, f a = .ok () := by
  induction as with
  | nil => exact ⟨fun _ _ h => by simp at h, fun _ => rfl⟩
  | cons a as ih =>
    show (f a >>= fun _ => as.forM f) = _ ↔ _
    rw [bind_eq_ok_iff, List.forall_mem_cons, ← ih]
    exact ⟨fun ⟨_, h, h'⟩ => ⟨h, h'⟩, fun ⟨h, h'⟩ => ⟨(), h, h'⟩⟩

end PassForge
