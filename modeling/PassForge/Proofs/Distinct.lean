import Mathlib.Data.Finset.Card

/-!
# The different elements of a list

`List.eraseDups` keeps every element once.

* `nodup_eraseDups`: nothing is kept twice.
* `length_eraseDups`: as many elements are kept as the list has different ones.
* `pairwise_eraseDups`: they are kept in the order in which they first appear.
* `flatMap_filter_perm`: a list is made of its parts by key.
-/

namespace PassForge

variable {α : Type} [DecidableEq α]

/-- Nothing is kept twice. -/
theorem nodup_eraseDups (l : List α) : l.eraseDups.Nodup := by
  induction h : l.length using Nat.strongRecOn generalizing l with
  | _ n ih =>
    cases l with
    | nil => simp
    | cons a rest =>
      -- What follows `a` is taken from the shorter list without `a`.
      have hlen := List.length_filter_le (fun b => !b == a) rest
      rw [List.eraseDups_cons, List.nodup_cons]
      refine ⟨fun ha => ?_, ih _ (by simp only [List.length_cons] at h; omega) _ rfl⟩
      simpa using (List.mem_filter.1 (List.mem_eraseDups.1 ha)).2

/-- As many elements are kept as the list has different ones. -/
theorem length_eraseDups (l : List α) : l.eraseDups.length = l.toFinset.card := by
  rw [← List.toFinset_card_of_nodup (nodup_eraseDups l)]
  congr 1
  ext a
  simp [List.mem_eraseDups]

/-- The list has the one element before the first place where it has the other. -/
def AppearsBefore (l : List α) (a b : α) : Prop :=
  ∃ before after, l = before ++ a :: after ∧ b ∉ before

theorem AppearsBefore.cons_filter {l : List α} {a b x : α} (hb : b ≠ x)
    (h : AppearsBefore (l.filter fun y => !y == x) a b) : AppearsBefore (x :: l) a b := by
  obtain ⟨before, after, hsplit, hnot⟩ := h
  obtain ⟨front, rest, rfl, hfront, hrest⟩ := List.filter_eq_append_iff.1 hsplit
  obtain ⟨skipped, after, rfl, hskipped, -, -⟩ := List.filter_eq_cons_iff.1 hrest
  refine ⟨x :: (front ++ skipped), after, by simp, ?_⟩
  have hkept : (!b == x) = true := by simpa using hb
  simp only [List.mem_cons, List.mem_append, not_or]
  refine ⟨hb, fun hmem => hnot ?_, fun hmem => hskipped b hmem hkept⟩
  rw [← hfront]
  exact List.mem_filter.2 ⟨hmem, hkept⟩

/-- The elements are kept in the order in which they first appear. -/
theorem pairwise_eraseDups (l : List α) : l.eraseDups.Pairwise (AppearsBefore l) := by
  induction h : l.length using Nat.strongRecOn generalizing l with
  | _ n ih =>
    cases l with
    | nil => simp
    | cons x rest =>
      have hlen := List.length_filter_le (fun y => !y == x) rest
      have htail := ih _ (by simp only [List.length_cons] at h; omega)
        (rest.filter fun y => !y == x) rfl
      rw [List.eraseDups_cons, List.pairwise_cons]
      refine ⟨fun b hb => ⟨[], rest, rfl, List.not_mem_nil⟩, ?_⟩
      refine htail.imp_of_mem fun {a b} _ hb hab => hab.cons_filter ?_
      simpa using (List.mem_filter.1 (List.mem_eraseDups.1 hb)).2

/-- A list is made of its parts by key, one part for each of different keys. -/
theorem flatMap_filter_perm {β : Type} {key : β → Option α} {ids : List α} (hids : ids.Nodup)
    {xs : List β} (hkey : ∀ x ∈ xs, ∃ id ∈ ids, key x = some id) :
    (ids.flatMap fun id => xs.filter fun x => key x = some id).Perm xs := by
  induction xs with
  | nil => simp
  | cons x xs ih =>
    obtain ⟨⟨id, hid, hx⟩, hrest⟩ := List.forall_mem_cons.1 hkey
    obtain ⟨before, after, rfl⟩ := List.append_of_mem hid
    -- `x` is in the part of its own key, and in no other.
    have hskip : ∀ ids : List α, id ∉ ids → (ids.flatMap fun k => (x :: xs).filter fun y =>
        key y = some k) = ids.flatMap fun k => xs.filter fun y => key y = some k := by
      intro ids hnot
      refine List.flatMap_congr fun k hk => List.filter_cons_of_neg ?_
      simp only [hx, Option.some.injEq, decide_eq_true_eq]
      rintro rfl
      exact hnot hk
    have hnodup := List.nodup_middle.1 hids
    simp only [List.nodup_cons, List.mem_append, not_or] at hnodup
    have hown : ((x :: xs).filter fun y => key y = some id) =
        x :: xs.filter fun y => key y = some id := List.filter_cons_of_pos (decide_eq_true hx)
    simp only [List.flatMap_append, List.flatMap_cons, hskip before hnodup.1.1,
      hskip after hnodup.1.2, hown] at ih ⊢
    exact List.perm_middle.trans ((ih hrest).cons x)

end PassForge
