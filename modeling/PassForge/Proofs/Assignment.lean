import PassForge.Assignment.Uniforms
import PassForge.Proofs.Store

/-!
# First roles

The assignments of a bag are grouped by resource, and a resource counts as what its first name says.

* `Bag.get?_byResource`: under the id of a resource stand all of its names, in name order.
* `UniformTable.firstRole?` is the role of the first name of a resource.
* `UniformTable.count_whoseRole`: selecting resources by role selects a resource once or not at all, by
  its first role.
-/

namespace PassForge

variable {id : ResourceId}

namespace Bag

/-- The names and roles of a resource among some assignments. -/
def namesOf (id : ResourceId) (entries : List (String × Assignment)) : List (String × Role) :=
  (entries.filter fun e => e.2.resource = id).map fun e => (e.1, e.2.role)

theorem namesOf_cons (e : String × Assignment) (entries : List (String × Assignment)) :
    namesOf id (e :: entries) = if e.2.resource = id then (e.1, e.2.role) :: namesOf id entries
      else namesOf id entries := by
  unfold namesOf
  rw [List.filter_cons]
  simp only [decide_eq_true_eq]
  split <;> rfl

/-- Collecting assignments puts the new names of a resource after those that it has. -/
theorem get?_collect (entries : List (String × Assignment))
    (m : SortedMap ResourceId (List (String × Role))) :
    (entries.foldl (fun m e => collect m e.1 e.2) m).get? id =
      if namesOf id entries = [] then m.get? id
      else some ((m.get? id).getD [] ++ namesOf id entries) := by
  induction entries generalizing m with
  | nil => rfl
  | cons e entries ih =>
    rw [List.foldl_cons, ih, namesOf_cons, collect, SortedMap.get?_insert]
    by_cases h : e.2.resource = id
    · subst h
      by_cases hn : namesOf e.2.resource entries = []
      · simp [hn]
      · simp [hn]
    · simp [h, Ne.symm h]

/-- Under the id of a resource stand all of its names. -/
theorem get?_byResource (b : Bag) : b.byResource.get? id =
    if namesOf id b.entries = [] then none else some (namesOf id b.entries) := by
  rw [byResource, get?_collect]
  rfl

end Bag

namespace UniformTable

variable {t : UniformTable}

/-- The role that the first name of a resource gives it, if it has a name. -/
def firstRole? (t : UniformTable) (id : ResourceId) : Option Role :=
  (t.assignments.entries.find? fun e => e.2.resource = id).map fun e => e.2.role

theorem head?_namesOf (entries : List (String × Assignment)) :
    (Bag.namesOf id entries).head?.map Prod.snd =
      (entries.find? fun e => e.2.resource = id).map fun e => e.2.role := by
  rw [Bag.namesOf, List.head?_map, List.head?_filter, Option.map_map]
  rfl

theorem mentions_eq : t.mentions id = (t.firstRole? id).isSome := by
  rw [mentions, SortedMap.contains, Bag.get?_byResource, firstRole?, ← head?_namesOf]
  cases Bag.namesOf id t.assignments.entries <;> rfl

/-- A role of a resource is that of some name. -/
theorem exists_of_firstRole? {role : Role} (h : t.firstRole? id = some role) :
    ∃ name a, t.assignment? name = some a ∧ a.resource = id ∧ a.role = role := by
  obtain ⟨e, he, rfl⟩ := Option.map_eq_some_iff.1 h
  exact ⟨e.1, e.2, SortedMap.get?_eq_some_iff.2 (List.mem_of_find?_eq_some he),
    by simpa using List.find?_some he, rfl⟩

/-- A resource with a name has a first role. -/
theorem isSome_firstRole? {name : String} {a : Assignment} (h : t.assignment? name = some a) :
    (t.firstRole? a.resource).isSome := by
  rw [firstRole?, Option.isSome_map, List.find?_isSome]
  exact ⟨(name, a), SortedMap.get?_eq_some_iff.1 h, by simp⟩

theorem whoseRole_eq (p : Role → Bool) : t.whoseRole p =
    t.assignments.byResource.entries.filterMap fun e =>
      if (e.2.head?.map Prod.snd).any p then some e.1 else none := by
  refine List.filterMap_congr fun e _ => ?_
  cases e.2 <;> rfl

theorem mem_whoseRole {p : Role → Bool} : id ∈ t.whoseRole p ↔ (t.firstRole? id).any p := by
  have hget : t.assignments.byResource.get? id =
      if Bag.namesOf id t.assignments.entries = [] then none
      else some (Bag.namesOf id t.assignments.entries) := Bag.get?_byResource _
  rw [firstRole?, ← head?_namesOf, whoseRole_eq, List.mem_filterMap]
  simp only [Option.ite_none_right_eq_some, Option.some.injEq]
  constructor
  · rintro ⟨⟨id, names⟩, hmem, hp, rfl⟩
    rw [SortedMap.get?_eq_some_iff.2 hmem] at hget
    split at hget
    · cases hget
    · exact Option.some.inj hget ▸ hp
  · intro hp
    refine ⟨(id, Bag.namesOf id t.assignments.entries), SortedMap.get?_eq_some_iff.1 ?_, hp, rfl⟩
    rw [hget, if_neg]
    intro hnil
    rw [hnil] at hp
    cases hp

/-- Selecting resources by role selects none twice. -/
theorem nodup_whoseRole (p : Role → Bool) : (t.whoseRole p).Nodup := by
  rw [whoseRole_eq]
  refine List.Pairwise.filterMap _ ?_ t.assignments.byResource.ascending
  intro e e' (hlt : e.1 < e'.1) id hid id' hid'
  obtain ⟨-, hid⟩ := Option.ite_none_right_eq_some.1 hid
  obtain ⟨-, hid'⟩ := Option.ite_none_right_eq_some.1 hid'
  cases hid
  cases hid'
  intro heq
  rw [heq] at hlt
  exact Std.Irrefl.irrefl e'.1 hlt

/-- A resource is selected by role once or not at all, by its first role. -/
theorem count_whoseRole (p : Role → Bool) :
    (t.whoseRole p).count id = if (t.firstRole? id).any p then 1 else 0 := by
  rw [(nodup_whoseRole p).count]
  simp only [mem_whoseRole]

end UniformTable

end PassForge
