import PassForge.Number.Decimal

/-!
# Documents

A `Document` is the tree in which descriptions come in and reports go out: scalars, lists and tables
with text keys. A number written with a point or an exponent is not an integer, whatever its value.
-/

namespace PassForge

/-- A tree of scalars, lists and tables. -/
inductive Document where
  | null
  | bool (b : Bool)
  /-- A numeral of digits alone, with a sign or not. -/
  | integer (i : Int)
  /-- Any other numeral. -/
  | decimal (d : Decimal)
  | text (s : String)
  | list (items : List Document)
  | table (entries : List (String × Document))

namespace Document

/-- The value under a key of a table; of several the last counts. -/
def field? (key : String) : Document → Option Document
  | table entries => (entries.reverse.find? fun e => e.1 = key).map Prod.snd
  | _ => none

/-- A value under a key is smaller than its table. -/
theorem sizeOf_lt_of_field? {key : String} {d v : Document} (h : d.field? key = some v) :
    sizeOf v < sizeOf d := by
  cases d <;> simp only [field?, reduceCtorEq] at h
  obtain ⟨⟨k, w⟩, hw, rfl⟩ := Option.map_eq_some_iff.1 h
  have := List.sizeOf_lt_of_mem (List.mem_reverse.1 (List.mem_of_find?_eq_some hw))
  simp only [Prod.mk.sizeOf_spec, table.sizeOf_spec] at this ⊢
  omega

/-- Whether the value is neither a list nor a table. -/
def isScalar : Document → Bool
  | list _ | table _ => false
  | _ => true

/-- The text of a scalar that is written as a text, and nothing for any other value. -/
def text? : Document → Option String
  | text s => some s
  | _ => none

end Document

end PassForge
