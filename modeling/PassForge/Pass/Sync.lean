import PassForge.Assignment.Uniforms
import PassForge.Context.Basic

/-!
# Synchronisation around a pass

A `SyncPlan` lists the resources that a pass brings up to date before and after it is recorded: the
buffers and the textures of its uniforms, and the buffers that it reads besides.
-/

namespace PassForge

/-- The resources that are brought up to date around a pass. -/
structure SyncPlan where
  uniformBuffers : List ResourceId := []
  uniformTextures : List ResourceId := []
  /-- Buffers that are no uniforms. -/
  otherBuffers : List ResourceId := []
  deriving DecidableEq

namespace SyncPlan

/-- The plan for some uniforms alone. -/
def ofUniforms (t : UniformTable) : SyncPlan where
  uniformBuffers := t.syncedBuffers
  uniformTextures := t.syncedTextures

/-- The plan for some uniforms and the buffers that a pass reads. A buffer that is named by a uniform
is not listed again, and no buffer is listed twice. -/
def forPass (t : UniformTable) (buffers : List ResourceId) : SyncPlan :=
  { ofUniforms t with otherBuffers := (buffers.filter fun id => !t.mentions id).eraseDups }

/-- Brings everything up to date for one point of a pass: the uniforms, buffers before textures and
each by ascending id, then the other buffers. -/
def run (s : SyncPlan) (p : SyncPoint) : Work ResourceError Unit := do
  s.uniformBuffers.forM fun id => Work.on .buffers id (Buffer.acquire p)
  s.uniformTextures.forM fun id => Work.on .textures id (Texture.acquire p)
  s.otherBuffers.forM fun id => Work.on .buffers id (Buffer.acquire p)

end SyncPlan

end PassForge
