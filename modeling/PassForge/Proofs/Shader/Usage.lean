import Mathlib.Data.List.Basic
import Mathlib.Logic.Relation
import PassForge.Shader.Usage

/-!
# What an entry point reaches

`ShaderModule.usedGlobals` follows calls for a fixed number of rounds. Its specification does not
count: a function is reached if a chain of calls of any length leads to it.

* `ShaderModule.Reaches`, `ShaderModule.Uses`: functions reached, and globals used, by an entry point.
* `ShaderModule.Closed` names are left as they are by a round, as far as declared functions go. Each
  round that does not find them closed names one more function, so the rounds are enough
  (`closed_reachable`).
* `ShaderModule.mem_usedGlobals_iff`: the names computed are those of the used globals.
-/

namespace PassForge

namespace ShaderModule

/-- The body of one function of the module calls another. -/
def Calls (m : ShaderModule) (f g : FunctionDecl) : Prop :=
  f ∈ m.functions ∧ g ∈ m.functions ∧ g.name ∈ f.calls

/-- A chain of calls leads from an entry point to a function. -/
def Reaches (m : ShaderModule) (e : EntryPoint) (f : FunctionDecl) : Prop :=
  ∃ g ∈ m.functions, g.name ∈ e.calls ∧ Relation.ReflTransGen m.Calls g f

/-- An entry point uses a global: its own body does, or that of a function which it reaches. -/
def Uses (m : ShaderModule) (e : EntryPoint) (name : String) : Prop :=
  name ∈ e.uses ∨ ∃ f, m.Reaches e f ∧ name ∈ f.uses

/-- Whatever the listed functions call is listed too, if it is a function of the module. -/
def Closed (m : ShaderModule) (names : List String) : Prop :=
  ∀ f g, m.Calls f g → f.name ∈ names → g.name ∈ names

variable {m : ShaderModule} {names : List String}

@[simp]
theorem mem_functionsNamed {f : FunctionDecl} :
    f ∈ m.functionsNamed names ↔ f ∈ m.functions ∧ f.name ∈ names := by
  simp [functionsNamed]

/-! ## One round -/

/-- The names that a list of functions adds to those found before. -/
theorem mem_foldl_calls {fs : List FunctionDecl} {found : List String} {x : String} :
    x ∈ fs.foldl (fun found f => found ++ f.calls.filter fun name => !found.contains name) found ↔
      x ∈ found ∨ ∃ f ∈ fs, x ∈ f.calls := by
  induction fs generalizing found with
  | nil => simp
  | cons f fs ih =>
    rw [List.foldl_cons, ih]
    by_cases hx : x ∈ found <;> simp [hx]

@[simp]
theorem mem_expandCalls {x : String} :
    x ∈ m.expandCalls names ↔ x ∈ names ∨ ∃ f ∈ m.functions, f.name ∈ names ∧ x ∈ f.calls := by
  rw [expandCalls, mem_foldl_calls]
  simp [and_assoc]

theorem functionsNamed_sublist (m : ShaderModule) (names : List String) :
    (m.functionsNamed names).Sublist (m.functionsNamed (m.expandCalls names)) := by
  refine List.monotone_filter_right _ fun f hf => ?_
  simp only [List.contains_iff_mem, mem_expandCalls] at hf ⊢
  exact .inl hf

/-- A round that names no new function has found all calls followed. -/
theorem closed_of_length_le
    (h : (m.functionsNamed (m.expandCalls names)).length ≤ (m.functionsNamed names).length) :
    m.Closed names := by
  have heq := (m.functionsNamed_sublist names).eq_of_length_le h
  rintro f g ⟨hf, hg, hcall⟩ hname
  have hmem : g ∈ m.functionsNamed (m.expandCalls names) := by
    simp only [mem_functionsNamed, mem_expandCalls]
    exact ⟨hg, .inr ⟨f, hf, hname, hcall⟩⟩
  rw [← heq, mem_functionsNamed] at hmem
  exact hmem.2

theorem Closed.expandCalls (h : m.Closed names) : m.Closed (m.expandCalls names) := by
  rintro f g ⟨hf, hg, hcall⟩ hname
  rcases mem_expandCalls.1 hname with hf' | ⟨f', hmem', hf', hcall'⟩
  · exact mem_expandCalls.2 (.inr ⟨f, hf, hf', hcall⟩)
  · have hlisted := h f' f ⟨hmem', hf, hcall'⟩ hf'
    exact mem_expandCalls.2 (.inr ⟨f, hf, hlisted, hcall⟩)

/-! ## All rounds -/

theorem subset_reachableIn (rounds : Nat) : names ⊆ m.reachableIn rounds names := by
  induction rounds generalizing names with
  | zero => exact List.Subset.refl names
  | succ rounds ih => exact fun x hx => ih (mem_expandCalls.2 (.inl hx))

theorem Closed.reachableIn (h : m.Closed names) (rounds : Nat) :
    m.Closed (m.reachableIn rounds names) := by
  induction rounds generalizing names with
  | zero => exact h
  | succ rounds ih => exact ih h.expandCalls

/-- Rounds for every function that is not named yet lead to closed names. -/
theorem closed_reachableIn {rounds : Nat}
    (h : m.functions.length ≤ (m.functionsNamed names).length + rounds) :
    m.Closed (m.reachableIn rounds names) := by
  induction rounds generalizing names with
  | zero =>
    -- every function is named, so there is none that a call could add
    have hall : m.functionsNamed names = m.functions :=
      List.filter_sublist.eq_of_length_le h
    rintro f g ⟨-, hg, -⟩ -
    rw [← hall, mem_functionsNamed] at hg
    exact hg.2
  | succ rounds ih =>
    by_cases hgrow : (m.functionsNamed names).length <
        (m.functionsNamed (m.expandCalls names)).length
    · apply ih
      omega
    · exact (closed_of_length_le (by omega)).expandCalls.reachableIn rounds

theorem closed_reachable (m : ShaderModule) (roots : List String) : m.Closed (m.reachable roots) :=
  closed_reachableIn (Nat.le_add_left ..)

/-- Rounds only name functions that are reached. -/
theorem reaches_of_reachableIn {e : EntryPoint} {rounds : Nat}
    (h : ∀ f ∈ m.functionsNamed names, m.Reaches e f) :
    ∀ f ∈ m.functionsNamed (m.reachableIn rounds names), m.Reaches e f := by
  induction rounds generalizing names with
  | zero => exact h
  | succ rounds ih =>
    refine ih fun f hf => ?_
    simp only [mem_functionsNamed, mem_expandCalls] at hf h
    obtain ⟨hf, hname | ⟨f', hf', hname', hcall⟩⟩ := hf
    · exact h f ⟨hf, hname⟩
    · obtain ⟨g, hg, hroot, hchain⟩ := h f' ⟨hf', hname'⟩
      exact ⟨g, hg, hroot, hchain.tail ⟨hf', hf, hcall⟩⟩

/-- The rounds name exactly the functions that are reached. -/
theorem mem_functionsNamed_reachable_iff {e : EntryPoint} {f : FunctionDecl} :
    f ∈ m.functionsNamed (m.reachable e.calls) ↔ m.Reaches e f := by
  constructor
  · refine reaches_of_reachableIn (fun g hg => ?_) f
    rw [mem_functionsNamed] at hg
    exact ⟨g, hg.1, hg.2, .refl⟩
  · rintro ⟨g, hg, hroot, hchain⟩
    induction hchain with
    | refl => exact mem_functionsNamed.2 ⟨hg, subset_reachableIn _ hroot⟩
    | tail _ hcall ih =>
      have hnamed := m.closed_reachable e.calls _ _ hcall (mem_functionsNamed.1 ih).2
      exact mem_functionsNamed.2 ⟨hcall.2.1, hnamed⟩

/-- **Usage is the closure of the calls.** -/
theorem mem_usedGlobals_iff {e : EntryPoint} {name : String} :
    name ∈ m.usedGlobals e ↔ m.Uses e name := by
  simp only [usedGlobals, List.mem_append, List.mem_flatMap, mem_functionsNamed_reachable_iff, Uses]

instance (m : ShaderModule) (e : EntryPoint) : DecidablePred (m.Uses e) :=
  fun _ => decidable_of_iff _ mem_usedGlobals_iff

end ShaderModule

end PassForge
