import PassForge.Context.Basic

/-!
# Targets of a render pass

What a pipeline needs to know about the attachments it renders into. Every attachment must have as
many samples as the pipeline, and every output of the fragment shader needs a target.
-/

namespace PassForge

/-- The colour target of one attachment, which is the `index`-th of its pass. -/
def colorTarget (c : Context) (samples : SampleCount) (index : Nat) (id : ResourceId) :
    Except CompileError ColorTarget := do
  let attachment ← c.colorAttachments.require id
  let texture ← c.textures.require attachment.texture
  if texture.samples ≠ samples.count then
    throw (.sampleCountMismatch index samples.count texture.samples)
  return attachment.target texture

/-- The colour targets of the attachments of a pass, in their order. -/
def colorTargets (c : Context) (samples : SampleCount) (attachments : List ResourceId) :
    Except CompileError (List ColorTarget) :=
  attachments.zipIdx.mapM fun p => colorTarget c samples p.2 p.1

/-- Checks that every output of a fragment shader has a colour target. -/
def checkOutputs (i : ShaderInterface) (targets : List ColorTarget) : Except CompileError Unit :=
  match i.colorOutputs.find? fun o => targets.length ≤ o.location with
  | some o => .error (.missingColorTarget o.location)
  | none => .ok ()

/-- The depth-stencil state for the attachment of a pass, if it has one. -/
def depthState (c : Context) (samples : SampleCount) :
    Option ResourceId → Except CompileError (Option DepthStencilState)
  | none => .ok none
  | some id => do
    let attachment ← c.depthAttachments.require id
    let texture ← c.textures.require attachment.texture
    if texture.samples ≠ samples.count then
      throw (.depthSampleCountMismatch samples.count texture.samples)
    return some (attachment.state texture)

end PassForge
