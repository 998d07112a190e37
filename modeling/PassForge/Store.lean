import PassForge.Error
import PassForge.Sorted
import PassForge.Text.Structure

/-!
# Stores of resources

A `Store` keeps the resources of one kind by id. Nothing is ever taken out of it.

* `find` looks a resource up and fails with the kind's name if it is not there; `require` does so
  where a pass is compiled.
* `obtain` gives the resource under an id and makes it first if there is none; a resource that is
  there already is kept.
-/

namespace PassForge

/-- The resources of one kind, by id. -/
structure Store (α : Type) where
  /-- What the resources are called in messages. -/
  kind : String
  entries : SortedMap ResourceId α := .empty

namespace Store

variable {α ε : Type}

/-- The resource under an id, if any. -/
def get? (s : Store α) (id : ResourceId) : Option α := s.entries.get? id

/-- The resource under an id. -/
def find (s : Store α) (id : ResourceId) : Except ResourceError α :=
  match s.get? id with
  | some a => .ok a
  | none => .error (.unknownResource s.kind id)

/-- The resource under an id, as part of compiling a pass. -/
def require (s : Store α) (id : ResourceId) : Except CompileError α :=
  match s.find id with
  | .ok a => .ok a
  | .error e => .error (.resource e)

/-- Whether there is a resource under an id. -/
def contains (s : Store α) (id : ResourceId) : Bool := s.entries.contains id

/-- The number of resources. -/
def size (s : Store α) : Nat := s.entries.size

/-- Puts a resource under an id. -/
def insert (s : Store α) (id : ResourceId) (a : α) : Store α :=
  { s with entries := s.entries.insert id a }

/-- Replaces the resource under an id, if there is one. -/
def update (s : Store α) (id : ResourceId) (a : α) : Store α :=
  { s with entries := s.entries.modify id fun _ => a }

/-- The resource under an id, made and registered first if there is none. -/
def obtain (s : Store α) (id : ResourceId) (make : ResourceId → Except ε α) :
    Except ε (α × Store α) :=
  match s.get? id with
  | some a => .ok (a, s)
  | none =>
    match make id with
    | .ok a => .ok (a, s.insert id a)
    | .error e => .error e

/-- The shown text of a store. -/
def text (s : Store α) : String :=
  Text.fields "Registry" [("kind", Text.quote s.kind), ("len", toString s.size)]

end Store

end PassForge
