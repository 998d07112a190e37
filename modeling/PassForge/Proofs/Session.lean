import PassForge.Proofs.History
import PassForge.Proofs.Resource.BufferCalls
import PassForge.Proofs.Resource.CursorCalls

/-!
# Sessions

A session is everything that a host does with a context: one operation after the other, whether they
succeed or fail.

* `Operation` lists what a host can do: the calls of a history, the calls on each resource, copies
  between textures, and the changes of the surface.
* `Operation.steps`: each of them takes steps of `Context.Step`, as far as hooks do.
* `Context.Reachable.session` is the run lemma: whatever a host does with it, a context stays one of
  those that `Context.Reachable` speaks of.
-/

namespace PassForge

open Context (Step)
open Relation (ReflTransGen)

/-- Every call on a buffer takes steps of the buffer. -/
theorem Buffer.Call.runs (k : Buffer.Call) : Runs Buffer.Step k.action := fun l => by
  cases k with
  | handle => exact (Buffer.handle_runs l).bind fun _ _ _ => .refl
  | staging =>
    refine RunsFrom.bind ?_ fun _ _ _ => .refl
    by_cases hk : l.object.kind = .map
    · exact (Buffer.staging_refreshes hk).mono fun _ _ => Buffer.Refresh.step
    · exact .of_after (after_error (Buffer.staging_of_ne hk)) .refl
  | write w => exact (Buffer.write_refreshes .before w l).mono fun _ _ => Buffer.Refresh.step
  | acquire p => exact Buffer.acquire_runs p l
  | setHandler h => exact Buffer.setHandler_runs h l

/-- Every creation of a resource takes steps. -/
theorem Creation.runs (k : Creation) : Runs Step k.run := by
  cases k with
  | buffer kind desc => exact Work.createBuffer_runs kind desc
  | texture2d desc => exact Work.createTexture2d_runs desc
  | storageTexture2d desc => exact Work.createStorageTexture2d_runs desc
  | texture2dArray layers desc => exact Work.createTexture2dArray_runs layers desc
  | textureCube desc => exact Work.createTextureCube_runs desc
  | surfaceTexture id => exact Work.createSurfaceTexture_runs id
  | sampler kind desc => exact Work.createSampler_runs kind desc
  | shader stage desc => exact Work.createShader_runs stage desc
  | colorAttachment desc => exact Work.createColorAttachment_runs desc
  | depthAttachment desc => exact Work.createDepthAttachment_runs desc

/-- Something that a host does with a context. -/
inductive Operation where
  | call (k : Call)
  | buffer (id : ResourceId) (k : Buffer.Call)
  | texture (id : ResourceId) (k : Texture.Call)
  | setTextureHandler (id : ResourceId) (h : Handler TextureWrite)
  | samplerHandle (id : ResourceId)
  | shaderHandle (id : ResourceId)
  | copyTexture (source : ResourceId) (sourceMip : Nat) (target : ResourceId) (targetMip : Nat)
  | nextFrame
  | loseSurface

namespace Operation

/-- What an operation leaves of a context, whether it succeeds or fails. -/
def next (c : Context) : Operation → Context
  | call k => k.next c
  | buffer id k => after (Work.on .buffers id k.action) c
  | texture id k => after (Work.on .textures id k.action) c
  | setTextureHandler id h => after (Work.on .textures id (Action.change (Texture.setHandler h))) c
  | samplerHandle id => after (Work.on .samplers id Sampler.handle) c
  | shaderHandle id => after (Work.on .shaders id Shader.handle) c
  | copyTexture source sourceMip target targetMip =>
    after (Work.copyTexture source sourceMip target targetMip) c
  | nextFrame => { c with device := c.device.nextFrame }
  | loseSurface => { c with device := c.device.loseSurface }

/-- The hook that an operation runs, if any. -/
def hook : Operation → Option Hook
  | call (.buildCompute r) => r.hook
  | _ => none

variable {c : Context}

/-- Every operation takes steps if its hook does. -/
theorem steps (o : Operation) (hhook : ∀ hook, o.hook = some hook → Runs Step hook) (c : Context) :
    ReflTransGen Step c (o.next c) := by
  cases o with
  | call k =>
    cases k with
    | mint => exact .single .mint
    | create k => exact k.runs c
    | compileRender d => exact d.compile_runs c
    | compileCompute d => exact d.compile_runs c
    | buildRender r => exact r.build_runs c
    | buildCompute r => exact r.build_runs hhook c
  | buffer id k => exact Work.on_buffer_runs k.runs c
  | texture id k => exact Work.on_texture_runs k.runs c
  | setTextureHandler id h => exact Work.on_texture_runs (Texture.setHandler_runs h) c
  | samplerHandle id =>
    exact Context.runs_of_touches (Work.on_sampler_touches Sampler.handle_runs) c
  | shaderHandle id => exact (Work.shaderHandle_installs c).mono fun _ _ => Context.Install.step
  | copyTexture source sourceMip target targetMip =>
    exact Work.copyTexture_runs source sourceMip target targetMip c
  | nextFrame => exact .single .nextFrame
  | loseSurface => exact .single .loseSurface

end Operation

/-- **Whatever a host does with a context that operations lead to, operations lead to the result**, as
far as the hooks of its passes do no more than that. -/
theorem Context.Reachable.session {c : Context} (hc : c.Reachable) (os : List Operation)
    (h : ∀ o ∈ os, ∀ hook, o.hook = some hook → Runs Step hook) :
    (os.foldl Operation.next c).Reachable := by
  induction os generalizing c with
  | nil => exact hc
  | cons o os ih =>
    obtain ⟨ho, hos⟩ := List.forall_mem_cons.1 h
    exact ih (hc.steps (o.steps ho c)) hos

end PassForge
