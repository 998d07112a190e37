import Mathlib.Order.Bounds.Basic
import PassForge.Proofs.Pass.Packing

/-!
# Ranges of a shared buffer

A buffer that several bindings of a group take is cut into ranges, one behind the other. What the
ranges are depends on the bindings that take this buffer and on nothing else.

* `PackedFrom` says how ranges follow each other: each starts at the least multiple of the alignment
  that leaves the ranges before alone. It holds of the ranges that are cut (`packedFrom_packed`) and of
  no others (`PackedFrom.eq`).
* `Slices` is what this comes to for ranges that fit a buffer: they are aligned, inside the buffer and
  apart from each other.
* `usedAfter` is where the ranges of some bindings end. `usedAfter_le` bounds it by their number, so
  that it takes a great many bindings to leave 64 bits.
-/

namespace PassForge

variable {limits : Limits} {b : MergedBinding} {bs bs' : List MergedBinding}
  {r : BufferRange} {rs : List BufferRange} {used : Nat}

/-! ## Multiples -/

/-- Rounding up yields the least multiple. -/
theorem isLeast_roundUp {n a : Nat} (ha : 0 < a) : IsLeast {m | a ∣ m ∧ n ≤ m} (roundUp n a) := by
  unfold roundUp
  have hdiv := Nat.div_add_mod (n + a - 1) a
  have hmod := Nat.mod_lt (n + a - 1) ha
  rw [Nat.mul_comm] at hdiv
  refine ⟨⟨Nat.dvd_mul_left a _, by omega⟩, ?_⟩
  rintro m ⟨⟨k, rfl⟩, hle⟩
  rw [Nat.mul_comm a k] at hle ⊢
  refine Nat.mul_le_mul_right a (Nat.lt_succ_iff.1 ((Nat.div_lt_iff_lt_mul ha).2 ?_))
  rw [Nat.succ_mul]
  omega

theorem roundUp_lt {n a : Nat} (ha : 0 < a) : roundUp n a < n + a := by
  have := Nat.div_mul_le_self (n + a - 1) a
  unfold roundUp
  omega

/-- The multiples that a device demands of offsets are positive 32-bit numbers. -/
structure Limits.Aligns (l : Limits) : Prop where
  uniform : 0 < l.minUniformOffsetAlignment ∧ l.minUniformOffsetAlignment < UInt32.size
  storage : 0 < l.minStorageOffsetAlignment ∧ l.minStorageOffsetAlignment < UInt32.size

theorem Limits.Aligns.offsetAlignment {l : Limits} (h : l.Aligns) (k : ResourceKind) :
    0 < k.offsetAlignment l ∧ k.offsetAlignment l < UInt32.size := by
  cases k with
  | uniformBuffer => exact h.uniform
  | _ => exact h.storage

theorem Limits.Aligns.pos {l : Limits} (h : l.Aligns) (k : ResourceKind) :
    0 < k.offsetAlignment l := (h.offsetAlignment k).1

/-! ## Ranges behind each other -/

/-- Ranges for some bindings behind each other, if everything below `used` is taken. Each starts at the
least multiple of the alignment for its binding that is not taken, and is as large as the shader says.
-/
inductive PackedFrom (limits : Limits) : Nat → List MergedBinding → List BufferRange → Prop
  | nil {used : Nat} : PackedFrom limits used [] []
  | cons {used : Nat} {b : MergedBinding} {bs : List MergedBinding} {r : BufferRange}
      {rs : List BufferRange}
      (offset : IsLeast {o | b.kind.offsetAlignment limits ∣ o ∧ used ≤ o} r.offset)
      (size : r.size = b.size.getD 0) (rest : PackedFrom limits r.stop bs rs) :
      PackedFrom limits used (b :: bs) (r :: rs)

/-- The ranges of a buffer of a given size that are cut for some bindings. -/
structure Slices (limits : Limits) (size : Nat) (bs : List MergedBinding) (rs : List BufferRange) :
    Prop where
  packed : PackedFrom limits 0 bs rs
  first : ∀ r ∈ rs.head?, r.offset = 0
  /-- Each range is for its binding. -/
  each : List.Forall₂ (fun b r => b.kind.offsetAlignment limits ∣ r.offset ∧ r.size = b.size.getD 0)
    bs rs
  inside : ∀ r ∈ rs, r.stop ≤ size
  apart : rs.Pairwise fun r r' => r.stop ≤ r'.offset

namespace PackedFrom

theorem le_offset (h : PackedFrom limits used bs rs) : ∀ r ∈ rs, used ≤ r.offset := by
  induction h with
  | nil => simp
  | @cons used b bs r rs offset size _ ih =>
    have hr : used ≤ r.offset := offset.1.2
    rw [List.forall_mem_cons]
    refine ⟨hr, fun r' hr' => ?_⟩
    have := ih r' hr'
    unfold BufferRange.stop at this
    omega

theorem apart (h : PackedFrom limits used bs rs) :
    rs.Pairwise fun r r' => r.stop ≤ r'.offset := by
  induction h with
  | nil => exact .nil
  | cons _ _ rest ih => exact .cons rest.le_offset ih

theorem each (h : PackedFrom limits used bs rs) : List.Forall₂
    (fun b r => b.kind.offsetAlignment limits ∣ r.offset ∧ r.size = b.size.getD 0) bs rs := by
  induction h with
  | nil => exact .nil
  | cons offset size _ ih => exact .cons ⟨offset.1.1, size⟩ ih

/-- Nothing is taken before the first range. -/
theorem first (h : PackedFrom limits 0 bs rs) : ∀ r ∈ rs.head?, r.offset = 0 := by
  cases h with
  | nil => simp
  | cons offset =>
    rintro r ⟨⟩
    exact Nat.le_zero.1 (offset.2 ⟨Nat.dvd_zero _, Nat.le_refl 0⟩)

theorem slices {size : Nat} (h : PackedFrom limits 0 bs rs) (hinside : ∀ r ∈ rs, r.stop ≤ size) :
    Slices limits size bs rs :=
  ⟨h, h.first, h.each, hinside, h.apart⟩

/-- There is one way only. -/
theorem eq (h : PackedFrom limits used bs rs) (ha : limits.Aligns) : rs = packed limits used bs := by
  induction h with
  | nil => rfl
  | @cons used b bs r rs offset size _ ih =>
    have hoffset : r.offset = roundUp used _ := offset.unique (isLeast_roundUp (ha.pos b.kind))
    have hr : b.rangeAfter limits used = r := by
      rw [MergedBinding.rangeAfter, ← hoffset, ← size]
    rw [packed, hr, ih]

end PackedFrom

/-- The ranges that are cut follow each other. -/
theorem packedFrom_packed (ha : limits.Aligns) (used : Nat) (bs : List MergedBinding) :
    PackedFrom limits used bs (packed limits used bs) := by
  induction bs generalizing used with
  | nil => exact .nil
  | cons b bs ih => exact .cons (isLeast_roundUp (ha.pos b.kind)) rfl (ih _)

/-! ## Ends -/

/-- Where the ranges of some bindings end, if everything below `used` is taken. -/
def usedAfter (limits : Limits) (used : Nat) (bs : List MergedBinding) : Nat :=
  bs.foldl (fun used b => (b.rangeAfter limits used).stop) used

theorem packed_append (limits : Limits) (used : Nat) (bs bs' : List MergedBinding) :
    packed limits used (bs ++ bs') =
      packed limits used bs ++ packed limits (usedAfter limits used bs) bs' := by
  induction bs generalizing used with
  | nil => rfl
  | cons b bs ih => exact congrArg (b.rangeAfter limits used :: ·) (ih _)

/-- A range that is cut belongs to one of the bindings, behind the ranges of those before. -/
theorem mem_packed_iff : r ∈ packed limits used bs ↔
    ∃ before b after, bs = before ++ b :: after ∧ r = b.rangeAfter limits (usedAfter limits used before) := by
  constructor
  · intro h
    induction bs generalizing used with
    | nil => simp [packed] at h
    | cons b bs ih =>
      rcases List.mem_cons.1 h with rfl | h
      · exact ⟨[], b, bs, rfl, rfl⟩
      · obtain ⟨before, b', after, rfl, rfl⟩ := ih h
        exact ⟨b :: before, b', after, rfl, rfl⟩
  · rintro ⟨before, b, after, rfl, rfl⟩
    rw [packed_append]
    exact List.mem_append_right _ (List.mem_cons_self ..)

/-- The end of some ranges is that of one of them, unless there are none. -/
theorem usedAfter_eq_or_mem (limits : Limits) (used : Nat) (bs : List MergedBinding) :
    bs = [] ∨ ∃ r ∈ packed limits used bs, usedAfter limits used bs = r.stop := by
  rcases List.eq_nil_or_concat bs with rfl | ⟨before, b, rfl⟩
  · exact .inl rfl
  · refine .inr ⟨b.rangeAfter limits (usedAfter limits used before), ?_, ?_⟩
    · exact mem_packed_iff.2 ⟨before, b, [], by simp, rfl⟩
    · simp [usedAfter]

theorem stop_rangeAfter_lt (ha : limits.Aligns) (hsize : b.size.getD 0 < UInt32.size) (used : Nat) :
    (b.rangeAfter limits used).stop < used + 2 * UInt32.size := by
  have hoffset := roundUp_lt (n := used) (ha.pos b.kind)
  have halign := (ha.offsetAlignment b.kind).2
  show roundUp used _ + b.size.getD 0 < _
  omega

/-- Each range takes less than twice what a 32-bit number can say. -/
theorem usedAfter_le (ha : limits.Aligns) (hsize : ∀ b ∈ bs, b.size.getD 0 < UInt32.size)
    (used : Nat) : usedAfter limits used bs ≤ used + bs.length * (2 * UInt32.size) := by
  induction bs generalizing used with
  | nil => simp [usedAfter]
  | cons b bs ih =>
    rw [List.forall_mem_cons] at hsize
    have hfirst := stop_rangeAfter_lt ha hsize.1 used
    have hrest := ih hsize.2 (b.rangeAfter limits used).stop
    rw [List.length_cons, Nat.succ_mul]
    show usedAfter limits (b.rangeAfter limits used).stop bs ≤ _
    omega

end PassForge
