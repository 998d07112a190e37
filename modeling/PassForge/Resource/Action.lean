import PassForge.Device.Basic
import PassForge.Error

/-!
# Actions on a resource

An `Action τ α` works on one resource of type `τ` and on the device it lives on. It may fail, and
what it did before it failed stays done.
-/

namespace PassForge

/-- A resource together with its device. -/
structure Live (τ : Type) where
  object : τ
  device : Device

/-- A step on a resource and its device that yields a value or fails. -/
abbrev Action (τ α : Type) := EStateM ResourceError (Live τ) α

namespace Action

variable {τ α : Type}

/-- The resource as it is now. -/
def object : Action τ τ := fun l => .ok l.object l

/-- Changes the resource. -/
def change (f : τ → τ) : Action τ Unit := fun l => .ok () { l with object := f l.object }

/-- Calls an operation of the device. -/
def call (f : Device → α × Device) : Action τ α := fun l =>
  .ok (f l.device).1 { l with device := (f l.device).2 }

/-- Appends an event to the trace of the device. -/
def log (e : Event) : Action τ Unit := fun l => .ok () { l with device := l.device.log e }

/-- The surface image of the current frame. -/
def surface : Action τ SurfaceImage := fun l =>
  match l.device.surface with
  | some s => .ok s l
  | none => .error .surfaceUnavailable l

end Action

end PassForge
