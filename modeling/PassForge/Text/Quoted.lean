import PassForge.Text.Printable

/-!
# Quoted text

`quote` writes a text between double quotes. Quotes, backslashes and the common controls have a
spelling of their own; every other character that cannot stand alone is written as its number in
braces.
-/

namespace PassForge.Text

/-- The digits of a number to base sixteen, in lower case and without leading zeros. -/
def hex (n : Nat) : String := String.ofList (Nat.toDigits 16 n)

/-- The number to base sixteen with at least `width` digits. -/
def hexPadded (width n : Nat) : String := "".pushn '0' (width - (hex n).length) ++ hex n

/-- The spelling of one character inside quotes. -/
def quoteChar (c : Char) : String :=
  if c = '"' then "\\\""
  else if c = '\\' then "\\\\"
  else if c = '\n' then "\\n"
  else if c = '\r' then "\\r"
  else if c = '\t' then "\\t"
  else if c.toNat = 0 then "\\0"
  else if isSpelledByNumber c then "\\u\x7b" ++ hex c.toNat ++ "\x7d"
  else c.toString

/-- The text between double quotes. -/
def quote (s : String) : String := "\"" ++ String.join (s.toList.map quoteChar) ++ "\""

end PassForge.Text
