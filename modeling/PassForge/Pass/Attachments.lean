import PassForge.Context.Basic

/-!
# Attachments of a pass being recorded

The views that a pass renders into are read anew each time the pass is recorded, so that an
attachment on the surface follows the image of the frame.
-/

namespace PassForge

namespace Work

/-- Selects rendering into a layer of a texture and reads its view. -/
def targetView (texture : ResourceId) (layer : Nat) : Work ResourceError View := do
  on .textures texture (Texture.useAsTarget layer)
  on .textures texture Texture.view

/-- The colour attachment of a pass. -/
def colorPass (id : ResourceId) : Work ResourceError ColorPass := do
  let attachment ← find .colorAttachments id
  let view ← targetView attachment.texture attachment.layer
  let resolve ← match attachment.resolve with
    | some target => some <$> targetView target 0
    | none => pure none
  return ⟨view, resolve, attachment.options.load.op attachment.options.clearColor⟩

/-- The depth-stencil attachment of a pass. -/
def depthPass (id : ResourceId) : Work ResourceError DepthPass := do
  let attachment ← find .depthAttachments id
  let view ← targetView attachment.texture 0
  let texture ← find .textures attachment.texture
  return ⟨view, attachment.depthOp texture, attachment.stencilOp texture⟩

end Work

end PassForge
