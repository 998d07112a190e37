import PassForge.Proofs.Context.Step

/-!
# What compiling spares

Before it makes the pipeline, compiling may make device objects, switch modes, move cursors and keep
views and interfaces. `Context.Spared` says what it leaves: every store has the same resources under
the same ids, no id is minted, no shader module and no pipeline is made, and the surface is the same.

* `Context.bare` is a context without what compiling may leave on its resources.
* `Touch.spared` is the step lemma and `spared_of_touches` the run lemma.
-/

namespace PassForge

open Relation (ReflTransGen)

/-! ## Device objects -/

/-- The device objects of the resources of a store are those of the same resources of another. -/
def Store.Keeps {τ : Type} (device : τ → Option Nat) (s s' : Store τ) : Prop :=
  ∀ id a serial, s.get? id = some a → device a = some serial →
    ∃ a', s'.get? id = some a' ∧ device a' = some serial

namespace Store.Keeps

variable {τ : Type} {device : τ → Option Nat} {s s' s'' : Store τ}

theorem refl : s.Keeps device s := fun _ a _ ha hs => ⟨a, ha, hs⟩

theorem trans (h : s.Keeps device s') (h' : s'.Keeps device s'') : s.Keeps device s'' := by
  intro id a serial ha hs
  obtain ⟨a', ha', hs'⟩ := h id a serial ha hs
  exact h' id a' serial ha' hs'

theorem update {id : ResourceId} {a b : τ} (h : s.get? id = some a)
    (hb : ∀ serial, device a = some serial → device b = some serial) :
    s.Keeps device (s.update id b) := by
  intro id' a' serial ha' hs
  obtain ⟨a'', ha'', hkeeps⟩ := Store.exists_get?_update
    (R := fun _ a a' => ∀ serial, device a = some serial → device a' = some serial)
    h hb (fun _ _ _ _ _ hs => hs) ha'
  exact ⟨a'', ha'', hkeeps serial hs⟩

end Store.Keeps

namespace Context

variable {c c' c'' : Context}

/-! ## Bare contexts -/

/-- A context without what compiling may leave: the serials and the trace of the device, and what
binding leaves on a resource. -/
def bare (c : Context) : Context :=
  { c with
    device := c.device.bare
    buffers := c.buffers.map Buffer.bare
    textures := c.textures.map Texture.bare
    samplers := c.samplers.map Sampler.bare
    shaders := c.shaders.map Shader.bare }

/-! ## Spared contexts -/

/-- What compiling leaves of a context before it makes the pipeline: the same resources under the
same ids, with the device objects that they have, the same next id and the same surface; what is new
in the trace is neither a shader module nor a pipeline. -/
structure Spared (c c' : Context) : Prop where
  nextId : c'.nextId = c.nextId
  buffers : c'.buffers.map Buffer.bare = c.buffers.map Buffer.bare
  textures : c'.textures.map Texture.bare = c.textures.map Texture.bare
  samplers : c'.samplers.map Sampler.bare = c.samplers.map Sampler.bare
  shaders : c'.shaders.map Shader.bare = c.shaders.map Shader.bare
  colorAttachments : c'.colorAttachments = c.colorAttachments
  depthAttachments : c'.depthAttachments = c.depthAttachments
  pipelines : c'.pipelines = c.pipelines
  device : c.device.Serves c'.device
  deviceBuffers : c.buffers.Keeps Buffer.device c'.buffers
  deviceTextures : c.textures.Keeps Texture.device c'.textures
  deviceSamplers : c.samplers.Keeps Sampler.device c'.samplers
  shaderModules : c.shaders.Keeps Shader.device c'.shaders

theorem Spared.bare (h : Spared c c') : c'.bare = c.bare := by
  unfold Context.bare
  rw [h.nextId, h.buffers, h.textures, h.samplers, h.shaders, h.colorAttachments,
    h.depthAttachments, h.pipelines, h.device.bare]

theorem Spared.refl : Spared c c :=
  ⟨rfl, rfl, rfl, rfl, rfl, rfl, rfl, rfl, .refl, .refl, .refl, .refl, .refl⟩

theorem Spared.trans (h : Spared c c') (h' : Spared c' c'') : Spared c c'' where
  nextId := h'.nextId.trans h.nextId
  buffers := h'.buffers.trans h.buffers
  textures := h'.textures.trans h.textures
  samplers := h'.samplers.trans h.samplers
  shaders := h'.shaders.trans h.shaders
  colorAttachments := h'.colorAttachments.trans h.colorAttachments
  depthAttachments := h'.depthAttachments.trans h.depthAttachments
  pipelines := h'.pipelines.trans h.pipelines
  device := h.device.trans h'.device
  deviceBuffers := h.deviceBuffers.trans h'.deviceBuffers
  deviceTextures := h.deviceTextures.trans h'.deviceTextures
  deviceSamplers := h.deviceSamplers.trans h'.deviceSamplers
  shaderModules := h.shaderModules.trans h'.shaderModules

theorem Spared.of_serves {d : Device} (hd : c.device.Serves d) : Spared c { c with device := d } :=
  { Spared.refl with device := hd }

/-- A change that compiling makes spares the context. -/
theorem Touch.spared (h : Touch c c') : Spared c c' := by
  cases h with
  | buffer h hl =>
    exact { Spared.refl with
      device := hl.serves
      buffers := Store.map_update h hl.bare
      deviceBuffers := .update h fun _ => hl.device }
  | texture h hl =>
    exact { Spared.refl with
      device := hl.serves
      textures := Store.map_update h hl.bare
      deviceTextures := .update h fun _ => hl.device }
  | sampler h hl =>
    exact { Spared.refl with
      device := hl.serves
      samplers := Store.map_update h hl.bare
      deviceSamplers := .update h fun _ => hl.device }
  | shader h hl =>
    cases hl with
    | reflect =>
      exact { Spared.refl with
        shaders := Store.map_update h rfl
        shaderModules := .update h fun _ => id }
  | layout => exact .of_serves (.createBindGroupLayout ..)
  | pipelineLayout => exact .of_serves (.createPipelineLayout ..)
  | group => exact .of_serves (.createBindGroup ..)

theorem spared_of_touches (h : ReflTransGen Touch c c') : Spared c c' := by
  induction h with
  | refl => exact .refl
  | tail _ h ih => exact ih.trans h.spared

end Context

end PassForge
