import PassForge.Assignment.Uniforms
import PassForge.Binding.Merge
import PassForge.Context.Basic

/-!
# The resources behind bindings

`resolve` finds the resource that is assigned to the name of a binding and checks that it can serve
the binding: buffers by their role, a storage binding not by a uniform buffer, samplers comparing
exactly if the shader compares.
-/

namespace PassForge

/-- A resource that stands behind a binding. -/
inductive Resolved where
  | buffer (b : Buffer)
  | texture (t : Texture)
  | sampler (s : Sampler)

/-- The role that the kind of a resource gives it. -/
def Resolved.role : Resolved → Role
  | .buffer b => b.kind.role
  | .texture t => t.kind.role
  | .sampler _ => .textureSampler

/-- The resource assigned to a binding of a group. -/
def resolve (c : Context) (table : UniformTable) (group : Nat) (b : MergedBinding) :
    Except CompileError Resolved :=
  match table.assignment? b.name with
  | none => .error (.uniformNotAssigned b.name group b.binding)
  | some a =>
    let mismatch := CompileError.uniformKindMismatch b.name b.kind.name a.role
    match b.kind with
    | .uniformBuffer =>
      if a.role = .uniformBuffer then .buffer <$> c.buffers.require a.resource
      else .error mismatch
    | .storageBuffer _ =>
      if a.role.isStorage then do
        let buffer ← c.buffers.require a.resource
        if buffer.kind = .uniform then throw mismatch
        return .buffer buffer
      else .error mismatch
    | .texture .. | .storageTexture .. =>
      if a.role.isTexture then .texture <$> c.textures.require a.resource
      else .error mismatch
    | .sampler comparison =>
      if a.role = .textureSampler then do
        let sampler ← c.samplers.require a.resource
        if comparison ≠ decide (sampler.kind = .comparison) then throw mismatch
        return .sampler sampler
      else .error mismatch

end PassForge
