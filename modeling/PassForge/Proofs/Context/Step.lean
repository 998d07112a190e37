import PassForge.Context.Create
import PassForge.Proofs.Resource.Buffer
import PassForge.Proofs.Resource.Handles
import PassForge.Proofs.Resource.TextureViews
import PassForge.Proofs.Store

/-!
# What happens to contexts

`Context.Step` lists every change that any operation makes to a context; the contexts that finitely
many of them lead to from one without resources are `Context.Reachable`.

* `Context.Touch` are the changes that compiling a pass makes before it makes the pipeline, and
  `Context.Survey` those of them that it makes before it binds anything. `Context.Install` are the
  changes that making the pipeline makes.
* `runs_on`: an action on a resource of a store takes steps of the context if it takes steps of the
  resource.
-/

namespace PassForge

open Relation (ReflTransGen)

variable {α τ : Type} {ε : Type}

/-! ## Shelves -/

namespace Shelf

/-- Puts a changed resource and its device back. -/
def put (shelf : Shelf τ) (id : ResourceId) (l : Live τ) (c : Context) : Context :=
  shelf.set ((shelf.get c).update id l.object) { c with device := l.device }

/-- A shelf holds what is set on it, and nothing else of a context. -/
class Lawful (shelf : Shelf τ) : Prop where
  get_set (s : Store τ) (c : Context) : shelf.get (shelf.set s c) = s
  set_get (c : Context) : shelf.set (shelf.get c) c = c
  set_set (s s' : Store τ) (c : Context) : shelf.set s (shelf.set s' c) = shelf.set s c
  get_device (d : Device) (c : Context) : shelf.get { c with device := d } = shelf.get c
  set_device (s : Store τ) (d : Device) (c : Context) :
    { shelf.set s c with device := d } = shelf.set s { c with device := d }

instance : Lawful .buffers := ⟨fun _ _ => rfl, fun _ => rfl, fun _ _ _ => rfl, fun _ _ => rfl,
  fun _ _ _ => rfl⟩

instance : Lawful .textures := ⟨fun _ _ => rfl, fun _ => rfl, fun _ _ _ => rfl, fun _ _ => rfl,
  fun _ _ _ => rfl⟩

instance : Lawful .samplers := ⟨fun _ _ => rfl, fun _ => rfl, fun _ _ _ => rfl, fun _ _ => rfl,
  fun _ _ _ => rfl⟩

instance : Lawful .shaders := ⟨fun _ _ => rfl, fun _ => rfl, fun _ _ _ => rfl, fun _ _ => rfl,
  fun _ _ _ => rfl⟩

instance : Lawful .colorAttachments := ⟨fun _ _ => rfl, fun _ => rfl, fun _ _ _ => rfl,
  fun _ _ => rfl, fun _ _ _ => rfl⟩

instance : Lawful .depthAttachments := ⟨fun _ _ => rfl, fun _ => rfl, fun _ _ _ => rfl,
  fun _ _ => rfl, fun _ _ _ => rfl⟩

instance : Lawful .pipelines := ⟨fun _ _ => rfl, fun _ => rfl, fun _ _ _ => rfl, fun _ _ => rfl,
  fun _ _ _ => rfl⟩

section Lawful

variable {shelf : Shelf τ} [shelf.Lawful] {c : Context} {id : ResourceId} {a : τ} {l l' : Live τ}

theorem device_put : (shelf.put id l c).device = l.device := by
  have h := @Lawful.set_device _ shelf _ ((shelf.get c).update id l.object) l.device
    { c with device := l.device }
  exact congrArg Context.device h.symm

theorem get_put : shelf.get (shelf.put id l c) = (shelf.get c).update id l.object :=
  Lawful.get_set ..

theorem put_self (h : (shelf.get c).get? id = some a) : shelf.put id ⟨a, c.device⟩ c = c := by
  show shelf.set ((shelf.get c).update id a) c = c
  rw [Store.update_self h, Lawful.set_get]

theorem put_put : shelf.put id l' (shelf.put id l c) = shelf.put id l' c := by
  show shelf.set ((shelf.get (shelf.put id l c)).update id l'.object)
    { shelf.put id l c with device := l'.device } = _
  rw [get_put, Store.update_update]
  unfold put
  rw [Lawful.set_device, Lawful.set_set]

/-- What is put back is found. -/
theorem get?_put (h : (shelf.get c).get? id = some a) :
    (shelf.get (shelf.put id l c)).get? id = some l.object := by
  rw [get_put, Store.get?_update h, if_pos rfl]

end Lawful

end Shelf

/-! ## Actions on resources -/

section On

variable {shelf : Shelf τ} {c : Context} {id : ResourceId} {a : τ} {l : Live τ} {r : α}
  {e : ResourceError} {action : Action τ α}

theorem find_of_none (h : (shelf.get c).get? id = none) :
    Work.find shelf id c = .error (.unknownResource (shelf.get c).kind id) c := by
  unfold Work.find
  rw [Store.find_of_none h]

theorem find_of_some (h : (shelf.get c).get? id = some a) : Work.find shelf id c = .ok a c := by
  unfold Work.find
  rw [Store.find_of_some h]

/-- Looking a resource up changes nothing. -/
theorem get?_of_find {c' : Context} (h : Work.find shelf id c = .ok a c') :
    (shelf.get c).get? id = some a ∧ c' = c := by
  cases hget : (shelf.get c).get? id with
  | none => exact nomatch (find_of_none hget).symm.trans h
  | some a' =>
    cases (find_of_some hget).symm.trans h
    exact ⟨rfl, rfl⟩

theorem runs_find {Step : Context → Context → Prop} : Runs Step (Work.find shelf id) := fun c => by
  cases h : (shelf.get c).get? id with
  | none => exact .of_after (after_error (find_of_none h)) .refl
  | some a => exact .of_after (after_ok (find_of_some h)) .refl

theorem on_of_none (h : (shelf.get c).get? id = none) :
    Work.on shelf id action c = .error (.unknownResource (shelf.get c).kind id) c := by
  unfold Work.on
  rw [Store.find_of_none h]

theorem on_of_ok (h : (shelf.get c).get? id = some a) (ha : action ⟨a, c.device⟩ = .ok r l) :
    Work.on shelf id action c = .ok r (shelf.put id l c) := by
  unfold Work.on
  rw [Store.find_of_some h]
  dsimp only
  rw [ha]
  rfl

theorem on_of_error (h : (shelf.get c).get? id = some a)
    (ha : action ⟨a, c.device⟩ = .error e l) :
    Work.on shelf id action c = .error e (shelf.put id l c) := by
  unfold Work.on
  rw [Store.find_of_some h]
  dsimp only
  rw [ha]
  rfl

/-- An action that fails has not found its resource, or has put it back as it left it. -/
theorem on_eq_error {c' : Context} (h : Work.on shelf id action c = .error e c') :
    ((shelf.get c).get? id = none ∧ e = .unknownResource (shelf.get c).kind id ∧ c' = c) ∨
      ∃ a l, (shelf.get c).get? id = some a ∧ action ⟨a, c.device⟩ = .error e l ∧
        c' = shelf.put id l c := by
  cases hget : (shelf.get c).get? id with
  | none =>
    cases (on_of_none hget).symm.trans h
    exact .inl ⟨rfl, rfl, rfl⟩
  | some a =>
    cases ha : action ⟨a, c.device⟩ with
    | ok r l => exact nomatch (on_of_ok hget ha).symm.trans h
    | error e' l =>
      cases (on_of_error hget ha).symm.trans h
      exact .inr ⟨a, l, rfl, ha, rfl⟩

/-- What an action leaves of a context with the resource. -/
theorem after_on (h : (shelf.get c).get? id = some a) :
    after (Work.on shelf id action) c = shelf.put id (after action ⟨a, c.device⟩) c := by
  cases ha : action ⟨a, c.device⟩ with
  | ok r l => rw [after_ok ha, after_ok (on_of_ok h ha)]
  | error e l => rw [after_error ha, after_error (on_of_error h ha)]

theorem outcome_on (h : (shelf.get c).get? id = some a) :
    outcome (Work.on shelf id action) c = outcome action ⟨a, c.device⟩ := by
  cases ha : action ⟨a, c.device⟩ with
  | ok r l => rw [outcome_ok ha, outcome_ok (on_of_ok h ha)]
  | error e l => rw [outcome_error ha, outcome_error (on_of_error h ha)]

/-- Two actions on one resource, one after the other, are one action on it. -/
theorem on_bind [shelf.Lawful] {β : Type} {f : α → Action τ β} :
    (Work.on shelf id action >>= fun r => Work.on shelf id (f r)) =
      Work.on shelf id (action >>= f) := by
  funext c
  cases h : (shelf.get c).get? id with
  | none => rw [bind_of_error (on_of_none h), on_of_none h]
  | some a =>
    cases ha : action ⟨a, c.device⟩ with
    | error e l => rw [bind_of_error (on_of_error h ha), on_of_error h (bind_of_error ha)]
    | ok r l =>
      have hget := @Shelf.get?_put _ shelf _ c id a l h
      have hlive : (⟨l.object, (shelf.put id l c).device⟩ : Live τ) = l := by
        rw [Shelf.device_put]
      rw [bind_of_ok (on_of_ok h ha)]
      cases hf : f r l with
      | ok r' l' =>
        rw [on_of_ok hget (hlive.symm ▸ hf), on_of_ok h ((bind_of_ok ha).trans hf),
          Shelf.put_put]
      | error e l' =>
        rw [on_of_error hget (hlive.symm ▸ hf), on_of_error h ((bind_of_ok ha).trans hf),
          Shelf.put_put]

/-- An action on a resource takes steps of the context if it takes steps of the resource. -/
theorem runs_on [shelf.Lawful] {R : Live τ → Live τ → Prop} {Step : Context → Context → Prop}
    (hr : Runs R action)
    (step : ∀ {c : Context} {a : τ} {l : Live τ}, (shelf.get c).get? id = some a →
      R ⟨a, c.device⟩ l → Step c (shelf.put id l c)) : Runs Step (Work.on shelf id action) := by
  intro c
  cases h : (shelf.get c).get? id with
  | none => exact .of_after (after_error (on_of_none h)) .refl
  | some a =>
    refine .of_after (after_on h) ?_
    have hrun := hr ⟨a, c.device⟩
    unfold RunsFrom at hrun
    generalize after action ⟨a, c.device⟩ = l at hrun
    induction hrun with
    | refl => rw [Shelf.put_self h]
    | @tail l₁ l₂ _ hl ih =>
      have hput : shelf.put id l₂ (shelf.put id l₁ c) = shelf.put id l₂ c := Shelf.put_put
      refine ih.tail (hput ▸ step (Shelf.get?_put h) ?_)
      rwa [Shelf.device_put]

end On

/-! ## Steps -/

namespace Context

/-- A change that compiling makes before it makes the pipeline. -/
inductive Touch : Context → Context → Prop
  | buffer {c : Context} {id : ResourceId} {b : Buffer} {l : Live Buffer}
      (h : c.buffers.get? id = some b) (hl : Buffer.Use ⟨b, c.device⟩ l) :
      Touch c (Shelf.buffers.put id l c)
  | texture {c : Context} {id : ResourceId} {t : Texture} {l : Live Texture}
      (h : c.textures.get? id = some t) (hl : Texture.Use ⟨t, c.device⟩ l) :
      Touch c (Shelf.textures.put id l c)
  | sampler {c : Context} {id : ResourceId} {s : Sampler} {l : Live Sampler}
      (h : c.samplers.get? id = some s) (hl : Sampler.Step ⟨s, c.device⟩ l) :
      Touch c (Shelf.samplers.put id l c)
  | shader {c : Context} {id : ResourceId} {s : Shader} {l : Live Shader}
      (h : c.shaders.get? id = some s) (hl : Shader.Use ⟨s, c.device⟩ l) :
      Touch c (Shelf.shaders.put id l c)
  | layout {c : Context} (label : String) (entries : List LayoutEntry) :
      Touch c { c with device := (c.device.createBindGroupLayout label entries).2 }
  | pipelineLayout {c : Context} (label : Option String) (layouts : List Nat) :
      Touch c { c with device := (c.device.createPipelineLayout label layouts).2 }
  | group {c : Context} (label : String) (layout : Nat) (entries : List GroupEntry) :
      Touch c { c with device := (c.device.createBindGroup label layout entries).2 }

/-- A change that compiling makes before it binds anything: it reads interfaces and makes layouts. -/
inductive Survey : Context → Context → Prop
  | shader {c : Context} {id : ResourceId} {s : Shader} {l : Live Shader}
      (h : c.shaders.get? id = some s) (hl : Shader.Use ⟨s, c.device⟩ l) :
      Survey c (Shelf.shaders.put id l c)
  | layout {c : Context} (label : String) (entries : List LayoutEntry) :
      Survey c { c with device := (c.device.createBindGroupLayout label entries).2 }
  | pipelineLayout {c : Context} (label : Option String) (layouts : List Nat) :
      Survey c { c with device := (c.device.createPipelineLayout label layouts).2 }

/-- A change that an operation makes. -/
inductive Step : Context → Context → Prop
  | touch {c c' : Context} (h : Touch c c') : Step c c'
  | buffer {c : Context} {id : ResourceId} {b : Buffer} {l : Live Buffer}
      (h : c.buffers.get? id = some b) (hl : Buffer.Step ⟨b, c.device⟩ l) :
      Step c (Shelf.buffers.put id l c)
  | texture {c : Context} {id : ResourceId} {t : Texture} {l : Live Texture}
      (h : c.textures.get? id = some t) (hl : Texture.Step ⟨t, c.device⟩ l) :
      Step c (Shelf.textures.put id l c)
  | shader {c : Context} {id : ResourceId} {s : Shader} {l : Live Shader}
      (h : c.shaders.get? id = some s) (hl : Shader.Step ⟨s, c.device⟩ l) :
      Step c (Shelf.shaders.put id l c)
  | mint {c : Context} : Step c c.mint.2
  | addBuffer {c : Context} {id : ResourceId} {b : Buffer} (kind : BufferKind) (desc : BufferDesc)
      (h : c.buffers.get? id = none)
      (hb : Buffer.create c.device.limits kind desc id = .ok b) :
      Step c { c with buffers := c.buffers.insert id b }
  | addTexture {c : Context} {id : ResourceId} {t : Texture} {kind : TextureKind} (layers : Nat)
      (desc : TextureDesc) (hk : kind ≠ .surface) (h : c.textures.get? id = none)
      (ht : Texture.create c.device.limits c.device.surfaceFormat kind layers desc id = .ok t) :
      Step c { c with textures := c.textures.insert id t }
  | addSurface {c : Context} {id : ResourceId} (h : c.textures.get? id = none) :
      Step c { c with textures := c.textures.insert id (Texture.ofSurface c.device id) }
  | addSampler {c : Context} {id : ResourceId} (kind : SamplerKind) (desc : SamplerDesc)
      (h : c.samplers.get? id = none) :
      Step c { c with samplers := c.samplers.insert id (Sampler.create kind desc id) }
  | addShader {c : Context} {id : ResourceId} (stage : Stage) (desc : ShaderDesc)
      (h : c.shaders.get? id = none) :
      Step c { c with shaders := c.shaders.insert id (Shader.create stage desc id) }
  | addColor {c : Context} {id : ResourceId} (desc : ColorAttachmentDesc)
      (h : c.colorAttachments.get? id = none) :
      Step c { c with
        colorAttachments := c.colorAttachments.insert id (ColorAttachment.create desc id) }
  | addDepth {c : Context} {id : ResourceId} {t : Texture} {a : DepthAttachment}
      (desc : DepthAttachmentDesc) (h : c.depthAttachments.get? id = none)
      (ht : c.textures.get? desc.texture = some t) (ha : DepthAttachment.create t desc id = .ok a) :
      Step c { c with depthAttachments := c.depthAttachments.insert id a }
  | registerPipeline {c : Context} (p : Pipeline) :
      Step c { c.mint.2 with pipelines := c.pipelines.insert c.mint.1 p }
  | renderPipeline {c : Context} (layout vertexModule fragmentModule : Nat)
      (samples : MultisampleState) (pipeline : Nat → Pipeline) :
      Step c { c with device := (c.device.createRenderPipeline layout vertexModule fragmentModule
        samples pipeline).2 }
  | computePipeline {c : Context} (layout shaderModule : Nat) (pipeline : Nat → Pipeline) :
      Step c { c with device := (c.device.createComputePipeline layout shaderModule pipeline).2 }
  | encode {c : Context} {e : Event} (he : e.isEncoded) : Step c { c with device := c.device.log e }
  | callHook {c : Context} : Step c { c with device := c.device.log .hookCalled }
  | nextFrame {c : Context} : Step c { c with device := c.device.nextFrame }
  | loseSurface {c : Context} : Step c { c with device := c.device.loseSurface }

/-- A change that making the pipeline of a pass makes. -/
inductive Install : Context → Context → Prop
  | shader {c : Context} {id : ResourceId} {s : Shader} {l : Live Shader}
      (h : c.shaders.get? id = some s) (hl : Shader.Step ⟨s, c.device⟩ l) :
      Install c (Shelf.shaders.put id l c)
  | renderPipeline {c : Context} (layout vertexModule fragmentModule : Nat)
      (samples : MultisampleState) (pipeline : Nat → Pipeline) :
      Install c { c with device := (c.device.createRenderPipeline layout vertexModule fragmentModule
        samples pipeline).2 }
  | computePipeline {c : Context} (layout shaderModule : Nat) (pipeline : Nat → Pipeline) :
      Install c { c with
        device := (c.device.createComputePipeline layout shaderModule pipeline).2 }
  | registerPipeline {c : Context} (p : Pipeline) :
      Install c { c.mint.2 with pipelines := c.pipelines.insert c.mint.1 p }

theorem Install.step {c c' : Context} (h : Install c c') : Step c c' := by
  cases h with
  | shader h hl => exact .shader h hl
  | renderPipeline layout vertexModule fragmentModule samples pipeline =>
    exact .renderPipeline layout vertexModule fragmentModule samples pipeline
  | computePipeline layout shaderModule pipeline =>
    exact .computePipeline layout shaderModule pipeline
  | registerPipeline p => exact .registerPipeline p

/-- A context that finitely many changes lead to from one without resources. -/
def Reachable (c : Context) : Prop := ∃ d : Device, ReflTransGen Step { device := d } c

theorem Reachable.runs {c : Context} {w : EStateM ε Context α} (hc : Reachable c)
    (h : Runs Step w) : Reachable (after w c) := by
  obtain ⟨d, hd⟩ := hc
  exact ⟨d, hd.trans (h c)⟩

/-- Reachable contexts lead to reachable ones. -/
theorem Reachable.steps {c c' : Context} (hc : Reachable c) (h : ReflTransGen Step c c') :
    Reachable c' := by
  obtain ⟨d, hd⟩ := hc
  exact ⟨d, hd.trans h⟩

theorem runs_of_touches {w : EStateM ε Context α} (h : Runs Touch w) : Runs Step w := fun c =>
  (h c).mono fun _ _ => .touch

section Survey

variable {c c' : Context}

theorem Survey.touch (h : Survey c c') : Touch c c' := by
  cases h with
  | shader h hl => exact .shader h hl
  | layout label entries => exact .layout label entries
  | pipelineLayout label layouts => exact .pipelineLayout label layouts

theorem Survey.touches (h : ReflTransGen Survey c c') : ReflTransGen Touch c c' :=
  ReflTransGen.mono (fun _ _ => Survey.touch) _ _ h

theorem touches_of_surveys {w : EStateM ε Context α} (h : Runs Survey w) : Runs Touch w := fun c =>
  Survey.touches (h c)

/-- Before it binds anything, compiling leaves every texture as it is. -/
theorem textures_of_surveys (h : ReflTransGen Survey c c') : c'.textures = c.textures := by
  induction h with
  | refl => rfl
  | tail _ h ih =>
    refine Eq.trans ?_ ih
    cases h <;> rfl

end Survey

end Context

end PassForge
