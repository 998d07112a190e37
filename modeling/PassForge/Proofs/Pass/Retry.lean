import Mathlib
import PassForge.Proofs.Pass.Agreement
import PassForge.Proofs.Pass.Plan

/-!
# Compiling that fails

Compiling that fails leaves the resources of a context as they were, up to device objects, modes,
cursors and kept views and interfaces, and makes no shader module and no pipeline. None of what it
leaves changes the outcome: compiling the same again fails with the same error.

* `RenderDesc.fails_again`, `ComputeDesc.fails_again` say so from a sound context.
* `compile_error_spec` says so from every context that operations lead to.
-/

namespace PassForge

open Context (Touch)
open Relation (ReflTransGen)

variable {c c' : Context} {e : CompileError}

/-- Work that agrees with itself on twins and fails from a sound context fails with the same error
from what the failure leaves. -/
theorem Agrees.fails_again {ε α : Type} {R : α → α → Prop} {w : Work ε α} {e : ε}
    (h : Agrees R w w) (htouch : Runs Touch w) (hc : c.Sound) (he : w c = .error e c') :
    c.Spared c' ∧ ∃ c'', w c' = .error e c'' := by
  have hrun : ReflTransGen Touch c c' := htouch.of_eq_error he
  have hout := (h c c' (.of_touches hc hrun)).eq_error (outcome_error he)
  exact ⟨Context.spared_of_touches hrun, _, eq_error_of_outcome hout⟩

theorem RenderDesc.fails_again {d : RenderDesc} (hc : c.Sound) (h : d.compile c = .error e c') :
    c.Spared c' ∧ ∃ c'', d.compile c' = .error e c'' := by
  obtain ⟨hs, c'', h'⟩ := d.agrees_prepare.fails_again d.prepare_touches hc (compile_eq_error h)
  exact ⟨hs, c'', bind_of_error h'⟩

theorem ComputeDesc.fails_again {d : ComputeDesc} (hc : c.Sound) (h : d.compile c = .error e c') :
    c.Spared c' ∧ ∃ c'', d.compile c' = .error e c'' := by
  obtain ⟨hs, c'', h'⟩ := d.agrees_prepare.fails_again d.prepare_touches hc (compile_eq_error h)
  exact ⟨hs, c'', bind_of_error h'⟩

/-- **Compiling that fails spares the context and fails in the same way when repeated**, for render
passes and for compute passes. -/
theorem compile_error_spec (hc : c.Reachable) :
    (∀ (d : RenderDesc) (e : CompileError) (c' : Context), d.compile c = .error e c' →
      c.Spared c' ∧ ∃ c'', d.compile c' = .error e c'') ∧
    ∀ (d : ComputeDesc) (e : CompileError) (c' : Context), d.compile c = .error e c' →
      c.Spared c' ∧ ∃ c'', d.compile c' = .error e c'' :=
  ⟨fun _ _ _ h => RenderDesc.fails_again hc.sound h,
    fun _ _ _ h => ComputeDesc.fails_again hc.sound h⟩

namespace LostSurface

/-- A compute shader that reads a uniform buffer and a texture. -/
def code : ShaderModule where
  globals := [
    { name := "scale", space := .uniform, type := .scalar ⟨.float, 4⟩, slot := some ⟨0, 0⟩ },
    { name := "image", space := .handle, type := .image .d2 (.sampled .float false),
      slot := some ⟨0, 1⟩ }]
  entryPoints := [{ name := "main", stage := .pipeline .compute, uses := ["scale", "image"] }]

/-- Creates a uniform buffer, the texture of the surface and the shader. -/
def setup : Work ResourceError Unit := do
  let _ ← Work.createBuffer .uniform { size := 16 }
  let _ ← Work.createSurfaceTexture none
  let _ ← Work.createShader .compute { code := code, entryPoint := "main" }

/-- The context in which the surface has no image. -/
def context : Context := after setup { device := {} }

theorem reachable : context.Reachable := by
  refine Context.Reachable.runs ⟨{}, .refl⟩ ?_
  exact (Work.createBuffer_runs _ _).bind fun _ => (Work.createSurfaceTexture_runs _).bind fun _ =>
    (Work.createShader_runs _ _).bind fun _ => runs_pure ()

/-- A pass that binds the buffer and the surface. -/
def pass : ComputeDesc where
  shader := some ⟨3⟩
  uniforms := .ofList [("scale", ⟨⟨1⟩, .uniformBuffer⟩), ("image", ⟨⟨2⟩, .textureSurface⟩)]
  dispatch := .workgroups 1 1 1

end LostSurface

/-- Without an image of the surface, binding it fails after the device buffer is made, and fails
again. -/
theorem compile_error_lostSurface :
    LostSurface.pass.compile LostSurface.context =
        .error (.resource .surfaceUnavailable) (after LostSurface.pass.compile LostSurface.context) ∧
      ((after LostSurface.pass.compile LostSurface.context).buffers.get? ⟨1⟩).bind Buffer.device =
        some 3 ∧
      LostSurface.context.Spared (after LostSurface.pass.compile LostSurface.context) ∧
      ∃ c, LostSurface.pass.compile (after LostSurface.pass.compile LostSurface.context) =
        .error (.resource .surfaceUnavailable) c := by
  have hout : outcome LostSurface.pass.compile LostSurface.context =
      .error (.resource .surfaceUnavailable) := by cbv
  have herror := eq_error_of_outcome hout
  refine ⟨herror, ?_, (compile_error_spec LostSurface.reachable).2 _ _ _ herror⟩
  cbv

end PassForge
