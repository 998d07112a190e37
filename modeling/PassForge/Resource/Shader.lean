import PassForge.Resource.Action
import PassForge.Text.Structure

/-!
# Shaders

A `Shader` is one entry point of a shader module, created for a stage. Its interface and its device
module are made on first use and kept.
-/

namespace PassForge

/-- What a shader is created from. -/
structure ShaderDesc where
  /-- An id to take; a shader that is already registered under it is used instead. -/
  id : Option ResourceId := none
  label : Option String := none
  code : ShaderModule
  entryPoint : String

/-- A shader. -/
structure Shader where
  id : ResourceId
  /-- The stage that the shader was created for. -/
  stage : Stage
  label : Option String
  code : ShaderModule
  entryPoint : String
  /-- The interface, once it has been derived. -/
  interface? : Option ShaderInterface := none
  /-- The serial of the device module, once there is one. -/
  device : Option Nat := none

namespace Shader

/-- The shader with the given id and stage that a description asks for. -/
def create (stage : Stage) (desc : ShaderDesc) (id : ResourceId) : Shader where
  id := id
  stage := stage
  label := desc.label
  code := desc.code
  entryPoint := desc.entryPoint

/-- The interface of the entry point, derived on first use, and the shader that keeps it. -/
def reflect (s : Shader) : Except ReflectError (ShaderInterface × Shader) :=
  match s.interface? with
  | some i => .ok (i, s)
  | none => do
    let i ← s.code.reflect s.entryPoint
    return (i, { s with interface? := some i })

/-- The device module, created on first use. -/
def handle : Action Shader Nat := do
  let s ← Action.object
  match s.device with
  | some serial => return serial
  | none =>
    let serial ← Action.call (Device.createShaderModule s.label)
    Action.change fun s => { s with device := some serial }
    return serial

/-- The shown text of a shader. -/
def text (s : Shader) : String :=
  Text.fields "Shader" [
    ("id", s.id.text), ("stage", s.stage.title), ("label", Text.label s.label),
    ("entry_point", Text.quote s.entryPoint)]

end Shader

end PassForge
