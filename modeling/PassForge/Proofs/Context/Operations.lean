import PassForge.Proofs.Checks
import PassForge.Proofs.Context.Step

/-!
# Operations take steps

Whatever an operation on a context does, it does in steps of `Context.Step`. So every property that
no step destroys holds of every context that operations lead to.

* Creating a resource: `register_runs` and what it gives for each kind of resource.
* Working on a resource: `on_buffer_runs` and the like, from the steps of the resource.
* `copyTexture_runs`: copying between textures.
-/

namespace PassForge.Work

open Context (Touch Install Step)
open Relation (ReflTransGen)

variable {α τ : Type} {id : ResourceId}

theorem log_runs {ε : Type} {e : Event} (he : e.isEncoded) : Runs Step (log e : Work ε Unit) :=
  fun _ => .single (.encode he)

/-! ## Creating -/

theorem takeId_runs (wanted : Option ResourceId) : Runs Step (takeId wanted) := by
  cases wanted with
  | some id => exact runs_pure id
  | none => exact fun c => .single .mint

/-- Registering takes steps if putting a new resource on the shelf is one. -/
theorem register_runs {shelf : Shelf τ} [shelf.Lawful] {wanted : Option ResourceId}
    {make : Context → ResourceId → Except ResourceError τ}
    (step : ∀ {c : Context} {id : ResourceId} {a : τ}, (shelf.get c).get? id = none →
      make c id = .ok a → Step c (shelf.set ((shelf.get c).insert id a) c)) :
    Runs Step (register shelf wanted make) := by
  refine (takeId_runs wanted).bind fun id c => ?_
  show RunsFrom Step (liftM ((shelf.get c).obtain id (make c)) >>= _) c
  unfold Store.obtain
  cases h : (shelf.get c).get? id with
  | some a =>
    show ReflTransGen Step c (shelf.set (shelf.get c) c)
    rw [Shelf.Lawful.set_get]
  | none =>
    cases hm : make c id with
    | error e => exact .refl
    | ok a => exact .single (step h hm)

theorem createBuffer_runs (kind : BufferKind) (desc : BufferDesc) :
    Runs Step (createBuffer kind desc) :=
  register_runs fun h hb => .addBuffer kind desc h hb

theorem createTexture_runs {kind : TextureKind} (hk : kind ≠ .surface) (layers : Nat)
    (desc : TextureDesc) : Runs Step (createTexture kind layers desc) :=
  register_runs fun h ht => .addTexture layers desc hk h ht

theorem createTexture2d_runs (desc : TextureDesc) : Runs Step (createTexture2d desc) :=
  createTexture_runs (by decide) 1 desc

theorem createStorageTexture2d_runs (desc : TextureDesc) :
    Runs Step (createStorageTexture2d desc) := createTexture_runs (by decide) 1 desc

theorem createTexture2dArray_runs (layers : Nat) (desc : TextureDesc) :
    Runs Step (createTexture2dArray layers desc) := createTexture_runs (by decide) layers desc

theorem createTextureCube_runs (desc : TextureDesc) : Runs Step (createTextureCube desc) :=
  createTexture_runs (by decide) 6 desc

theorem createSurfaceTexture_runs (wanted : Option ResourceId) :
    Runs Step (createSurfaceTexture wanted) :=
  register_runs fun h hm => by
    cases hm
    exact .addSurface h

theorem createSampler_runs (kind : SamplerKind) (desc : SamplerDesc) :
    Runs Step (createSampler kind desc) :=
  register_runs fun h hm => by
    cases hm
    exact .addSampler kind desc h

theorem createShader_runs (stage : Stage) (desc : ShaderDesc) :
    Runs Step (createShader stage desc) :=
  register_runs fun h hm => by
    cases hm
    exact .addShader stage desc h

theorem createColorAttachment_runs (desc : ColorAttachmentDesc) :
    Runs Step (createColorAttachment desc) :=
  register_runs fun h hm => by
    cases hm
    exact .addColor desc h

theorem createDepthAttachment_runs (desc : DepthAttachmentDesc) :
    Runs Step (createDepthAttachment desc) :=
  register_runs fun h hm => by
    obtain ⟨t, ht, ha⟩ := bind_eq_ok_iff.1 hm
    exact .addDepth desc h (Store.find_eq_ok_iff.1 ht) ha

theorem registerPipeline_installs (p : Pipeline) : Runs Install (registerPipeline p) := fun _ =>
  .single (.registerPipeline p)

/-! ## Working on a resource -/

theorem on_buffer_touches {action : Action Buffer α} (h : Runs Buffer.Use action) :
    Runs Touch (on .buffers id action) := runs_on h .buffer

theorem on_texture_touches {action : Action Texture α} (h : Runs Texture.Use action) :
    Runs Touch (on .textures id action) := runs_on h .texture

theorem on_sampler_touches {action : Action Sampler α} (h : Runs Sampler.Step action) :
    Runs Touch (on .samplers id action) := runs_on h .sampler

theorem on_buffer_runs {action : Action Buffer α} (h : Runs Buffer.Step action) :
    Runs Step (on .buffers id action) := runs_on h .buffer

theorem on_texture_runs {action : Action Texture α} (h : Runs Texture.Step action) :
    Runs Step (on .textures id action) := runs_on h .texture

theorem shaderHandle_installs : Runs Install (on .shaders id Shader.handle) :=
  runs_on Shader.handle_runs .shader

theorem textureHandle_runs : Runs Step (on .textures id Texture.handle) :=
  Context.runs_of_touches (on_texture_touches Texture.handle_uses)

/-! ## Copying -/

theorem copyTexture_runs (source : ResourceId) (sourceMip : Nat) (target : ResourceId)
    (targetMip : Nat) : Runs Step (copyTexture source sourceMip target targetMip) := by
  refine runs_find.bind fun s => runs_find.bind fun t => runs_liftExcept.bind fun _ =>
    runs_liftExcept.bind fun _ => textureHandle_runs.bind fun _ => textureHandle_runs.bind fun _ => ?_
  exact log_runs rfl

end PassForge.Work
