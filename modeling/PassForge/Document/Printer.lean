import PassForge.Document.Basic
import PassForge.Text.Quoted

/-!
# Printing documents

`Document.toText` writes a document on one line, in the notation that `Document.ofText?` reads. Inside
quotes only the quote itself, the backslash and controls are escaped.
-/

namespace PassForge.Document

namespace Printer

/-- The spelling of one character inside quotes. -/
def escape (c : Char) : String :=
  if c = '"' then "\\\""
  else if c = '\\' then "\\\\"
  else if c = '\n' then "\\n"
  else if c = '\r' then "\\r"
  else if c = '\t' then "\\t"
  else if c.toNat < 0x20 then "\\u" ++ Text.hexPadded 4 c.toNat
  else c.toString

/-- A text between quotes. -/
def quoted (s : String) : String := "\"" ++ s.foldl (fun out c => out ++ escape c) "" ++ "\""

/-- A decimal as its digits and the power of ten. -/
def decimal (d : Decimal) : String :=
  (if d.negative then "-" else "") ++ toString d.digits ++ "e" ++ toString d.exponent

end Printer

mutual

/-- The notation of a document. -/
def toText : Document → String
  | null => "null"
  | bool true => "true"
  | bool false => "false"
  | integer i => toString i
  | decimal d => Printer.decimal d
  | text s => Printer.quoted s
  | list items => "[" ++ ",".intercalate (itemTexts items) ++ "]"
  | table entries => "\x7b" ++ ",".intercalate (entryTexts entries) ++ "\x7d"

/-- The notations of the items of a list. -/
def itemTexts : List Document → List String
  | [] => []
  | d :: rest => d.toText :: itemTexts rest

/-- The notations of the pairs of a table. -/
def entryTexts : List (String × Document) → List String
  | [] => []
  | (key, d) :: rest => (Printer.quoted key ++ ":" ++ d.toText) :: entryTexts rest

end

end PassForge.Document
