import PassForge.Document.Basic
import PassForge.Id
import PassForge.Number.Binary
import PassForge.Text.Quoted

/-!
# Values and documents

`OfDocument` reads a value from a document and `ToDocument` shows one as a document.

* A float is read from any numeral, and shown as its bit pattern.
* `read?` reads the value under a key of a table; `readOption?` and `readOr` take a missing value and
  null for no value.
-/

namespace PassForge

/-- A type whose values can be read from documents. -/
class OfDocument (α : Type) where
  /-- The value, if the document has its form. -/
  ofDocument? : Document → Option α

/-- A type whose values can be shown as documents. -/
class ToDocument (α : Type) where
  /-- The document that shows a value. -/
  document : α → Document

export OfDocument (ofDocument?)
export ToDocument (document)

namespace Document

/-- Reads a name. -/
def named? {α : Type} (ofName? : String → Option α) (d : Document) : Option α :=
  d.text?.bind ofName?

/-- The exact value of a numeral. -/
def numeral? : Document → Option Decimal
  | integer i => some (.ofInt i)
  | decimal d => some d
  | _ => none

/-- The items of a list. -/
def items? : Document → Option (List Document)
  | list items => some items
  | _ => none

/-- The pairs of a table. -/
def entries? : Document → Option (List (String × Document))
  | table entries => some entries
  | _ => none

/-- The value under a key of a table, unless it is null. -/
def given? (d : Document) (key : String) : Option Document :=
  match d.field? key with
  | some null => none
  | v => v

end Document

/-! ## Reading -/

instance : OfDocument Document := ⟨some⟩

instance : OfDocument Nat where
  ofDocument?
    | .integer (.ofNat n) => some n
    | _ => none

instance : OfDocument Bool where
  ofDocument?
    | .bool b => some b
    | _ => none

instance : OfDocument String := ⟨Document.text?⟩

instance : OfDocument Binary32 := ⟨fun d => d.numeral?.map Binary32.ofDecimal⟩

instance : OfDocument Binary64 := ⟨fun d => d.numeral?.map Binary64.ofDecimal⟩

instance {α : Type} [OfDocument α] : OfDocument (List α) :=
  ⟨fun d => d.items?.bind fun items => items.mapM ofDocument?⟩

namespace Document

variable {α : Type} [OfDocument α]

/-- Reads the value under a key, which must be there. -/
def read? (d : Document) (key : String) : Option α := d.field? key >>= ofDocument?

/-- Reads the value under a key, if there is one. -/
def readOption? (d : Document) (key : String) : Option (Option α) :=
  match d.given? key with
  | some v => some <$> ofDocument? v
  | none => some none

/-- Reads the value under a key, or takes another one if there is none. -/
def readOr (d : Document) (key : String) (fallback : α) : Option α :=
  (·.getD fallback) <$> d.readOption? key

end Document

/-! ## Showing -/

instance : ToDocument Document := ⟨id⟩

instance : ToDocument Nat := ⟨fun n => .integer n⟩

instance : ToDocument Int := ⟨.integer⟩

instance : ToDocument Bool := ⟨.bool⟩

instance : ToDocument String := ⟨.text⟩

instance : ToDocument ResourceId := ⟨fun id => .integer id.value⟩

instance : ToDocument Binary32 := ⟨fun x => .text ("0x" ++ Text.hexPadded 8 x.bits.toNat)⟩

instance : ToDocument Binary64 := ⟨fun x => .text ("0x" ++ Text.hexPadded 16 x.bits.toNat)⟩

instance {α : Type} [ToDocument α] : ToDocument (Option α) where
  document
    | some a => document a
    | none => .null

instance {α : Type} [ToDocument α] : ToDocument (List α) := ⟨fun l => .list (l.map document)⟩

instance {α β : Type} [ToDocument α] [ToDocument β] : ToDocument (α × β) :=
  ⟨fun p => .list [document p.1, document p.2]⟩

end PassForge
