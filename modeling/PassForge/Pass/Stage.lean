import PassForge.Context.Basic

/-!
# The shaders of a pass

A pass names one shader for each of its stages. `Work.stageInterface` is the interface of such a
shader; it fails if the shader was not created for the stage or its entry point is not one of it.
-/

namespace PassForge.Work

/-- The shader for a stage, which must be there. -/
def needShader (stage : Stage) (shader : Option ResourceId) : Work CompileError ResourceId :=
  match shader with
  | some id => pure id
  | none => throw (.missingShader stage)

/-- The interface of a shader, which keeps it. -/
def interface (id : ResourceId) : Work CompileError ShaderInterface := do
  let shader ← find .shaders id
  let (i, shader) ← (shader.reflect.mapError CompileError.reflect : Except CompileError _)
  modify fun c => { c with shaders := c.shaders.update id shader }
  return i

/-- The interface of a shader that serves a stage. -/
def stageInterface (stage : Stage) (id : ResourceId) : Work CompileError ShaderInterface := do
  let shader ← find .shaders id
  if shader.stage ≠ stage then throw (.shaderStageMismatch id stage shader.stage)
  let i ← interface id
  if i.stage ≠ stage then throw (.shaderStageMismatch id stage i.stage)
  return i

end PassForge.Work
