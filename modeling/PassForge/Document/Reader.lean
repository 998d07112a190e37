import PassForge.Document.Basic

/-!
# Reading the notation of documents

`Document.ofText?` reads a document written with braces, brackets and quotes: tables as
comma-separated pairs of a quoted key and a value, lists as comma-separated values, texts between
double quotes with backslash escapes, and the words `null`, `true` and `false`.

A numeral of digits alone is an integer. One with a point or an exponent is a decimal, and so is a
zero with a minus sign, since no integer has one.
-/

namespace PassForge.Document.Reader

/-- A step of reading: what was read and the characters that follow it, if the text has the form. -/
abbrev Step (α : Type) := List Char → Option (α × List Char)

/-- Whether a character may stand between the parts of a document. -/
def isGap (c : Char) : Bool := c = ' ' || c = '\t' || c = '\n' || c = '\r'

/-- The characters after a gap. -/
def skipGap (cs : List Char) : List Char := cs.dropWhile isGap

/-! ## Texts -/

/-- The value of a digit to base sixteen. -/
def hexDigit? (c : Char) : Option Nat :=
  if c.isDigit then some (c.toNat - '0'.toNat)
  else if 'a' ≤ c ∧ c ≤ 'f' then some (c.toNat - 'a'.toNat + 10)
  else if 'A' ≤ c ∧ c ≤ 'F' then some (c.toNat - 'A'.toNat + 10)
  else none

/-- The number that four digits to base sixteen write. -/
def codeUnit : Step Nat
  | a :: b :: c :: d :: rest => do
    return ((((← hexDigit? a) * 16 + (← hexDigit? b)) * 16 + (← hexDigit? c)) * 16
      + (← hexDigit? d), rest)
  | _ => none

/-- The character that the digits of an escape write. A character beyond the first plane is written
as two code units, the first in the range from D800 and the second in the range from DC00. -/
def escapedNumber : Step Char := fun cs => do
  let (high, rest) ← codeUnit cs
  if 0xD800 ≤ high ∧ high < 0xDC00 then
    match rest with
    | '\\' :: 'u' :: rest =>
      let (low, rest) ← codeUnit rest
      if 0xDC00 ≤ low ∧ low < 0xE000 then
        return (.ofNat (0x10000 + (high - 0xD800) * 0x400 + (low - 0xDC00)), rest)
      else none
    | _ => none
  else if 0xDC00 ≤ high ∧ high < 0xE000 then none
  else return (.ofNat high, rest)

/-- The character that an escape of one letter writes. -/
def escapedLetter? : Char → Option Char
  | '"' => some '"'
  | '\\' => some '\\'
  | '/' => some '/'
  | 'b' => some '\x08'
  | 'f' => some '\x0c'
  | 'n' => some '\n'
  | 'r' => some '\r'
  | 't' => some '\t'
  | _ => none

/-- Reads a text after its opening quote, with the characters read so far in reverse and at most
`fuel` characters or escapes to come. -/
def textTail : Nat → List Char → Step String
  | 0, _, _ => none
  | fuel + 1, done, cs =>
    match cs with
    | [] => none
    | '"' :: rest => some (String.ofList done.reverse, rest)
    | '\\' :: 'u' :: rest => do
      let (c, rest) ← escapedNumber rest
      textTail fuel (c :: done) rest
    | '\\' :: letter :: rest => do
      textTail fuel ((← escapedLetter? letter) :: done) rest
    | c :: rest => textTail fuel (c :: done) rest

/-- Reads a text after its opening quote. -/
def textBody : Step String := fun cs => textTail (cs.length + 1) [] cs

/-! ## Numerals -/

/-- The number that decimal digits write. -/
def digitsValue (cs : List Char) : Nat := cs.foldl (fun n c => n * 10 + (c.toNat - '0'.toNat)) 0

/-- Reads at least one digit. -/
def digits : Step (List Char) := fun cs =>
  let ds := cs.takeWhile Char.isDigit
  if ds.isEmpty then none else some (ds, cs.dropWhile Char.isDigit)

/-- Reads the digits after a point, if there is a point. -/
def fraction : Step (Option (List Char))
  | '.' :: rest => do
    let (ds, rest) ← digits rest
    return (some ds, rest)
  | cs => some (none, cs)

/-- Reads an exponent, if there is one. -/
def exponent : Step (Option Int)
  | 'e' :: rest | 'E' :: rest => do
    let (negative, rest) := match rest with
      | '-' :: r => (true, r)
      | '+' :: r => (false, r)
      | r => (false, r)
    let (ds, rest) ← digits rest
    let n := (digitsValue ds : Int)
    return (some (if negative then -n else n), rest)
  | cs => some (none, cs)

/-- The document that the parts of a numeral make. -/
def numeralOf (negative : Bool) (whole : List Char) (fraction : Option (List Char))
    (exponent : Option Int) : Document :=
  let n := digitsValue (whole ++ fraction.getD [])
  if fraction.isNone ∧ exponent.isNone ∧ ¬ (negative ∧ n = 0) then
    .integer (if negative then -n else n)
  else .decimal ⟨negative, n, exponent.getD 0 - (fraction.getD []).length⟩

/-- Reads a numeral. -/
def numeral : Step Document := fun cs => do
  let (negative, rest) := match cs with
    | '-' :: r => (true, r)
    | r => (false, r)
  let (whole, rest) ← digits rest
  let (frac, rest) ← fraction rest
  let (exp, rest) ← exponent rest
  return (numeralOf negative whole frac exp, rest)

/-! ## Documents -/

/-- Reads the given characters, and gives a value for them. -/
def word {α : Type} (text : String) (value : α) : Step α := fun cs =>
  if text.toList.isPrefixOf cs then some (value, cs.drop text.length) else none

mutual

/-- Reads a document, with at most `fuel` documents, items and pairs inside each other or behind
each other. -/
def document : Nat → Step Document
  | 0, _ => none
  | fuel + 1, cs =>
    match skipGap cs with
    | '[' :: rest =>
      match skipGap rest with
      | ']' :: rest => some (.list [], rest)
      | rest => do
        let (found, rest) ← items fuel rest
        return (.list found, rest)
    | '\x7b' :: rest =>
      match skipGap rest with
      | '\x7d' :: rest => some (.table [], rest)
      | rest => do
        let (found, rest) ← pairs fuel rest
        return (.table found, rest)
    | '"' :: rest => do
      let (read, rest) ← textBody rest
      return (.text read, rest)
    | 'n' :: rest => word "null" .null ('n' :: rest)
    | 't' :: rest => word "true" (.bool true) ('t' :: rest)
    | 'f' :: rest => word "false" (.bool false) ('f' :: rest)
    | rest => numeral rest

/-- Reads the items of a list up to its closing bracket. -/
def items : Nat → Step (List Document)
  | 0, _ => none
  | fuel + 1, cs => do
    let (d, rest) ← document fuel cs
    match skipGap rest with
    | ',' :: rest => do
      let (found, rest) ← items fuel rest
      return (d :: found, rest)
    | ']' :: rest => return ([d], rest)
    | _ => none

/-- Reads the pairs of a table up to its closing brace. -/
def pairs : Nat → Step (List (String × Document))
  | 0, _ => none
  | fuel + 1, cs =>
    match skipGap cs with
    | '"' :: rest => do
      let (key, rest) ← textBody rest
      match skipGap rest with
      | ':' :: rest => do
        let (d, rest) ← document fuel rest
        match skipGap rest with
        | ',' :: rest => do
          let (found, rest) ← pairs fuel rest
          return ((key, d) :: found, rest)
        | '\x7d' :: rest => return ([(key, d)], rest)
        | _ => none
      | _ => none
    | _ => none

end

end Reader

/-- The document that a text writes, if it writes one. Each document, item and pair takes at least
one character, so the length of the text bounds the reading. -/
def ofText? (text : String) : Option Document :=
  let cs := text.toList
  match Reader.document (2 * cs.length + 2) cs with
  | some (d, rest) => if (Reader.skipGap rest).isEmpty then some d else none
  | none => none

end PassForge.Document
