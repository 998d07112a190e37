import PassForge.Text.Printable

/-!
# Samples per pixel
-/

namespace PassForge

/-- The number of samples per pixel of a pipeline and its attachments. -/
inductive SampleCount where
  | x1 | x2 | x4 | x8
  deriving DecidableEq

/-- The multisample state of a pipeline: its sample count, a mask of the samples that are written,
and whether alpha selects samples. -/
structure MultisampleState where
  count : Nat
  mask : UInt64
  alphaToCoverage : Bool
  deriving DecidableEq

namespace SampleCount

instance : Inhabited SampleCount := ⟨x1⟩

/-- The samples per pixel, as a number. -/
def count : SampleCount → Nat
  | x1 => 1
  | x2 => 2
  | x4 => 4
  | x8 => 8

/-- The name of a sample count. -/
def name : SampleCount → String
  | x1 => "1x"
  | x2 => "2x"
  | x4 => "4x"
  | x8 => "8x"

/-- The sample count with exactly this name. -/
def ofName? (s : String) : Option SampleCount := [x1, x2, x4, x8].find? fun c => c.name = s

/-- A text that names no sample count. -/
structure ReadError where
  /-- The text, without the white space at its ends. -/
  text : String
  deriving DecidableEq

/-- The wording of a reading error. -/
def ReadError.message (e : ReadError) : String :=
  "Invalid multisample format '" ++ e.text ++ "', expected one of 1x, 2x, 4x, 8x"

/-- Reads a sample count, with white space around it allowed. -/
def read (s : String) : Except ReadError SampleCount :=
  match ofName? (Text.trim s) with
  | some c => .ok c
  | none => .error ⟨Text.trim s⟩

/-- The multisample state: every sample is written. -/
def state (c : SampleCount) : MultisampleState := ⟨c.count, 0xFFFFFFFFFFFFFFFF, false⟩

end SampleCount

end PassForge
