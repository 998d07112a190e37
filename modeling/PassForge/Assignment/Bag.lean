import PassForge.Gpu.Role
import PassForge.Id
import PassForge.Sorted

/-!
# Bags of assignments

A `Bag` says which resource stands behind each name of a shader: which vertex buffer feeds a vertex
input, or what is bound to a global. A name has at most one resource, the one assigned last.

* `Bag.names` lists the names of each resource, the resources by id and their names in name order.
-/

namespace PassForge

/-- A resource and the role it is assigned in. -/
structure Assignment where
  resource : ResourceId
  role : Role
  deriving DecidableEq

/-- Assignments by name. -/
abbrev Bag := SortedMap String Assignment

namespace Bag

/-- The bag with the given assignments, made in that order. -/
def ofList (assignments : List (String × Assignment)) : Bag := SortedMap.ofList assignments

/-- Assigns a resource to a name, in place of an earlier one. -/
def assign (b : Bag) (name : String) (a : Assignment) : Bag := b.insert name a

/-- Adds an assignment to the ones of its resource. -/
def collect (m : SortedMap ResourceId (List (String × Role))) (name : String) (a : Assignment) :
    SortedMap ResourceId (List (String × Role)) :=
  m.insert a.resource ((m.get? a.resource).getD [] ++ [(name, a.role)])

/-- The names and roles of each resource. -/
def byResource (b : Bag) : SortedMap ResourceId (List (String × Role)) :=
  b.entries.foldl (fun m e => collect m e.1 e.2) .empty

end Bag

end PassForge
