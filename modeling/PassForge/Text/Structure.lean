import PassForge.Number.Shortest
import PassForge.Text.Quoted

/-!
# The text of a structured value

A value of the library is shown on one line as its name and its fields, `Name { field: value }`.
Optional values are written `Some(value)` or `None`, lists in brackets, and texts in quotes.
-/

namespace PassForge.Text

/-- A value shown by its name and its fields, in the order given. -/
def fields (name : String) (parts : List (String × String)) : String :=
  if parts.isEmpty then name
  else
    let inner := ", ".intercalate (parts.map fun p => p.1 ++ ": " ++ p.2)
    name ++ " \x7b " ++ inner ++ " \x7d"

/-- An optional value. -/
def option (shown : Option String) : String :=
  match shown with
  | none => "None"
  | some text => "Some(" ++ text ++ ")"

/-- A list of values in brackets. -/
def list (shown : List String) : String := "[" ++ ", ".intercalate shown ++ "]"

/-- Several values in parentheses. -/
def tuple (shown : List String) : String := "(" ++ ", ".intercalate shown ++ ")"

/-- A truth value. -/
def bool (b : Bool) : String := if b then "true" else "false"

/-- An optional text, quoted. -/
def label (l : Option String) : String := option (l.map quote)

end PassForge.Text
