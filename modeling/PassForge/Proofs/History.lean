import Mathlib
import PassForge.Proofs.Context.Identity
import PassForge.Proofs.Pass.Plan

/-!
# Histories

A history is what one call after the other makes of a context without resources. The calls create
resources, under new ids or under ids that were minted earlier, and compile and record passes.

* `Context.Proper` is a step that registers nothing but under an id that has been minted; every call
  of a history takes such steps (`Call.propers`).
* `Context.Minting` is the invariant: what is registered has an id that was minted. `Proper.minting` is
  the step lemma, `Minting.propers` the run lemma.
* `identity_spec`: through a whole history an id names one object.
-/

namespace PassForge

open Context (Touch Install Step Refresh Arrange)
open Relation (ReflTransGen)

/-! ## Minted ids -/

namespace Context

variable {c c' : Context} {id : ResourceId}

/-- The number of ids that have been minted. -/
def mints (c : Context) : Nat := c.nextId - 1

/-- An id has been minted: ids are given out from 1 on, one after the other. -/
def Minted (c : Context) (id : ResourceId) : Prop := 0 < id.value ∧ id.value < c.nextId

instance : Decidable (c.Minted id) := inferInstanceAs (Decidable (_ ∧ _))

/-- Minting adds one id to those that have been minted. -/
theorem minted_mint (hc : 0 < c.nextId) : c.mint.2.Minted id ↔ id = c.mint.1 ∨ c.Minted id := by
  obtain ⟨n⟩ := id
  simp only [Minted, mint, ResourceId.mk.injEq]
  omega

/-- A step that registers nothing but under an id that has been minted, where ids are minted from 1
on. -/
structure Proper (c c' : Context) : Prop where
  step : Step c c'
  minted : 0 < c.nextId → ∀ r, ∀ id ∈ c'.ids r, id ∈ c.ids r ∨ c'.Minted id

theorem Proper.of_ids (h : Step c c') (hids : ∀ r, c'.ids r = c.ids r) : Proper c c' :=
  ⟨h, fun _ r _ hid => .inl (hids r ▸ hid)⟩

theorem Touch.proper (h : Touch c c') : Proper c c' := .of_ids (.touch h) h.spared.ids

theorem Refresh.proper {p : SyncPoint} (h : Refresh p c c') : Proper c c' := by
  refine .of_ids h.step ?_
  cases h with
  | buffer => exact ids_put .buffers
  | texture => exact ids_put .textures

theorem Arrange.proper (h : Arrange c c') : Proper c c' := by
  refine .of_ids h.step ?_
  cases h with
  | buffer => exact ids_put .buffers
  | texture => exact ids_put .textures

theorem Install.proper (h : Install c c') : Proper c c' := by
  cases h with
  | shader h hl => exact .of_ids (.shader h hl) (ids_put .shaders)
  | renderPipeline => exact .of_ids (.renderPipeline ..) (ids_device _)
  | computePipeline => exact .of_ids (.computePipeline ..) (ids_device _)
  | registerPipeline p =>
    refine ⟨.registerPipeline p, fun hc r id hid => ?_⟩
    obtain rfl | hid := mem_ids_set_insert (r := .pipelines) (c := c.mint.2) hid
    · exact .inr ((minted_mint hc).2 (.inl rfl))
    · exact .inl (by cases r <;> exact hid)

/-- What is registered has an id that was minted. -/
structure Minting (c : Context) : Prop where
  nextId : 0 < c.nextId
  minted : ∀ r, ∀ id ∈ c.ids r, c.Minted id

theorem Minting.start (d : Device) : Minting { device := d } := by
  refine ⟨Nat.one_pos, fun r id h => ?_⟩
  cases r <;> exact nomatch h

theorem Step.nextId_le (h : Step c c') : c.nextId ≤ c'.nextId := by
  cases h with
  | touch h => exact Nat.le_of_eq h.spared.nextId.symm
  | mint | registerPipeline => exact Nat.le_succ _
  | _ => exact Nat.le_refl _

theorem Proper.minting (h : Proper c c') (hc : c.Minting) : c'.Minting := by
  have hnext := h.step.nextId_le
  refine ⟨Nat.lt_of_lt_of_le hc.nextId hnext, fun r id hid => ?_⟩
  obtain hold | hnew := h.minted hc.nextId r id hid
  · have ⟨hpos, hlt⟩ := hc.minted r id hold
    exact ⟨hpos, Nat.lt_of_lt_of_le hlt hnext⟩
  · exact hnew

/-- Proper steps keep the invariant, and lose no object. -/
theorem Minting.propers (hc : c.Minting) (h : ReflTransGen Proper c c') :
    c'.Minting ∧ Lasting c c' ∧ c.nextId ≤ c'.nextId := by
  induction h with
  | refl => exact ⟨hc, .refl, Nat.le_refl _⟩
  | tail _ h ih =>
    obtain ⟨hminting, hlasting, hle⟩ := ih
    have hpipelines := fun id hid => (hminting.minted .pipelines id hid).2
    exact ⟨h.minting hminting, hlasting.trans (h.step.lasting hpipelines),
      Nat.le_trans hle h.step.nextId_le⟩

/-- A pipeline is registered under an id that is not taken. -/
theorem Minting.mint_not_mem (hc : c.Minting) : c.mint.1 ∉ c.ids .pipelines := fun h =>
  Nat.lt_irrefl _ (hc.minted .pipelines _ h).2

end Context

/-! ## Creating -/

/-- A call that creates a resource. -/
inductive Creation where
  | buffer (kind : BufferKind) (desc : BufferDesc)
  | texture2d (desc : TextureDesc)
  | storageTexture2d (desc : TextureDesc)
  | texture2dArray (layers : Nat) (desc : TextureDesc)
  | textureCube (desc : TextureDesc)
  | surfaceTexture (id : Option ResourceId)
  | sampler (kind : SamplerKind) (desc : SamplerDesc)
  | shader (stage : Stage) (desc : ShaderDesc)
  | colorAttachment (desc : ColorAttachmentDesc)
  | depthAttachment (desc : DepthAttachmentDesc)

namespace Creation

variable {c c' : Context} {id : ResourceId}

/-- The call itself. -/
def run : Creation → Work ResourceError ResourceId
  | buffer kind desc => Work.createBuffer kind desc
  | texture2d desc => Work.createTexture2d desc
  | storageTexture2d desc => Work.createStorageTexture2d desc
  | texture2dArray layers desc => Work.createTexture2dArray layers desc
  | textureCube desc => Work.createTextureCube desc
  | surfaceTexture id => Work.createSurfaceTexture id
  | sampler kind desc => Work.createSampler kind desc
  | shader stage desc => Work.createShader stage desc
  | colorAttachment desc => Work.createColorAttachment desc
  | depthAttachment desc => Work.createDepthAttachment desc

/-- The id that a call asks for. -/
def wanted : Creation → Option ResourceId
  | buffer _ desc => desc.id
  | texture2d desc | storageTexture2d desc | texture2dArray _ desc | textureCube desc => desc.id
  | surfaceTexture id => id
  | sampler _ desc => desc.id
  | shader _ desc => desc.id
  | colorAttachment desc => desc.id
  | depthAttachment desc => desc.id

/-- The store that a call registers in. -/
def registry : Creation → Registry
  | buffer .. => .buffers
  | texture2d _ | storageTexture2d _ | texture2dArray .. | textureCube _ | surfaceTexture _ =>
    .textures
  | sampler .. => .samplers
  | shader .. => .shaders
  | colorAttachment _ => .colorAttachments
  | depthAttachment _ => .depthAttachments

/-- The constructor that a call runs if it finds no object under its id. -/
def make : (k : Creation) → Context → ResourceId → Except ResourceError k.registry.Object
  | buffer kind desc, c, id => Buffer.create c.device.limits kind desc id
  | texture2d desc, c, id => Texture.create c.device.limits c.device.surfaceFormat .d2 1 desc id
  | storageTexture2d desc, c, id =>
    Texture.create c.device.limits c.device.surfaceFormat .storage2d 1 desc id
  | texture2dArray layers desc, c, id =>
    Texture.create c.device.limits c.device.surfaceFormat .d2Array layers desc id
  | textureCube desc, c, id => Texture.create c.device.limits c.device.surfaceFormat .cube 6 desc id
  | surfaceTexture _, c, id => .ok (Texture.ofSurface c.device id)
  | sampler kind desc, _, id => .ok (Sampler.create kind desc id)
  | shader stage desc, _, id => .ok (Shader.create stage desc id)
  | colorAttachment desc, _, id => .ok (ColorAttachment.create desc id)
  | depthAttachment desc, c, id => do
    DepthAttachment.create (← c.textures.find desc.texture) desc id

/-- Every call registers what its constructor makes, unless there is an object under its id. -/
theorem run_eq (k : Creation) : k.run = Work.register k.registry.shelf k.wanted k.make := by
  cases k <;> rfl

/-- Registering what a constructor has made is a step. -/
theorem step_make (k : Creation) {a : k.registry.Object}
    (h : (k.registry.shelf.get c).get? id = none) (hm : k.make c id = .ok a) :
    Step c (k.registry.shelf.set ((k.registry.shelf.get c).insert id a) c) := by
  cases k with
  | buffer kind desc => exact .addBuffer kind desc h hm
  | texture2d desc => exact .addTexture 1 desc (by decide) h hm
  | storageTexture2d desc => exact .addTexture 1 desc (by decide) h hm
  | texture2dArray layers desc => exact .addTexture layers desc (by decide) h hm
  | textureCube desc => exact .addTexture 6 desc (by decide) h hm
  | surfaceTexture wanted =>
    cases hm
    exact .addSurface h
  | sampler kind desc =>
    cases hm
    exact .addSampler kind desc h
  | shader stage desc =>
    cases hm
    exact .addShader stage desc h
  | colorAttachment desc =>
    cases hm
    exact .addColor desc h
  | depthAttachment desc =>
    obtain ⟨t, ht, ha⟩ := bind_eq_ok_iff.1 hm
    exact .addDepth desc h (Store.find_eq_ok_iff.1 ht) ha

end Creation

namespace Work

open Context (Proper)

variable {c : Context} {id : ResourceId}

/-- What is registered already is given back: no constructor runs, and nothing changes. -/
theorem register_of_some {τ : Type} {shelf : Shelf τ} [shelf.Lawful] {a : τ}
    (h : (shelf.get c).get? id = some a) (make : Context → ResourceId → Except ResourceError τ) :
    register shelf (some id) make c = .ok id c := by
  have hobtain : (shelf.get c).obtain id (make c) = .ok (a, shelf.get c) := by
    unfold Store.obtain
    rw [h]
  show ((liftM ((shelf.get c).obtain id (make c)) : Work ResourceError (τ × Store τ)) >>= _) c = _
  rw [hobtain]
  show EStateM.Result.ok id (shelf.set (shelf.get c) c) = _
  rw [Shelf.Lawful.set_get]

/-- Taking an id that has been minted, or a new one, is proper, and yields one that has been minted. -/
theorem takeId_proper {wanted : Option ResourceId} (hc : 0 < c.nextId)
    (hw : ∀ id, wanted = some id → c.Minted id) :
    ∃ id c', takeId wanted c = .ok id c' ∧ ReflTransGen Proper c c' ∧ c'.Minted id := by
  cases wanted with
  | some id => exact ⟨id, c, rfl, .refl, hw id rfl⟩
  | none =>
    refine ⟨_, _, rfl, .single (.of_ids .mint fun r => ?_), (Context.minted_mint hc).2 (.inl rfl)⟩
    cases r <;> rfl

/-- Registering takes proper steps if putting a new object into the store is a step. -/
theorem register_propers (r : Registry) {wanted : Option ResourceId}
    {make : Context → ResourceId → Except ResourceError r.Object} (hc : 0 < c.nextId)
    (hw : ∀ id, wanted = some id → c.Minted id)
    (step : ∀ {c : Context} {id : ResourceId} {a : r.Object}, (r.shelf.get c).get? id = none →
      make c id = .ok a → Step c (r.shelf.set ((r.shelf.get c).insert id a) c)) :
    RunsFrom Proper (register r.shelf wanted make) c := by
  obtain ⟨id, c₁, htake, hsteps, hid⟩ := takeId_proper hc hw
  refine RunsFrom.bind (.of_after (after_ok htake) hsteps) fun id' c' h => ?_
  cases htake.symm.trans h
  show RunsFrom Proper (liftM ((r.shelf.get c₁).obtain id (make c₁)) >>= _) c₁
  unfold Store.obtain
  cases h : (r.shelf.get c₁).get? id with
  | some a =>
    show ReflTransGen Proper c₁ (r.shelf.set (r.shelf.get c₁) c₁)
    rw [Shelf.Lawful.set_get]
  | none =>
    cases hm : make c₁ id with
    | error e => exact .refl
    | ok a =>
      refine .single ⟨step h hm, fun _ r' id' hid' => ?_⟩
      obtain rfl | hold := Context.mem_ids_set_insert hid'
      · refine .inr ?_
        cases r <;> exact hid
      · exact .inl hold

end Work

/-! ## Calls -/

/-- A call of a history. -/
inductive Call where
  | mint
  | create (k : Creation)
  | compileRender (d : RenderDesc)
  | compileCompute (d : ComputeDesc)
  | buildRender (r : RenderPass)
  | buildCompute (r : ComputePass)

namespace Call

variable {c : Context}

/-- What a call leaves of a context, whether it succeeds or fails. -/
def next (c : Context) : Call → Context
  | mint => c.mint.2
  | create k => after k.run c
  | compileRender d => after d.compile c
  | compileCompute d => after d.compile c
  | buildRender r => after r.build c
  | buildCompute r => after r.build c

/-- A call may name an id only if it has been minted, and so may whatever a hook does. -/
def Admitted (c : Context) : Call → Prop
  | create k => ∀ id, k.wanted = some id → c.Minted id
  | buildCompute r => ∀ hook, r.hook = some hook → Runs Context.Proper hook
  | mint | compileRender _ | compileCompute _ | buildRender _ => True

/-- A call takes proper steps. -/
theorem propers {k : Call} (hc : 0 < c.nextId) (h : k.Admitted c) :
    ReflTransGen Context.Proper c (k.next c) := by
  have hencode (c : Context) (e : Event) (he : e.isEncoded) :
      Context.Proper c { c with device := c.device.log e } :=
    .of_ids (.encode he) (Context.ids_device _)
  cases k with
  | mint =>
    refine .single (.of_ids .mint fun r => ?_)
    cases r <;> rfl
  | create k =>
    show RunsFrom Context.Proper k.run c
    rw [k.run_eq]
    exact Work.register_propers k.registry hc h k.step_make
  | compileRender d =>
    exact d.compile_within (fun _ _ => Touch.proper) (fun _ _ => Install.proper) c
  | compileCompute d =>
    exact d.compile_within (fun _ _ => Touch.proper) (fun _ _ => Install.proper) c
  | buildRender r =>
    exact r.build_within (fun _ _ _ => Refresh.proper) (fun _ _ => Arrange.proper) hencode c
  | buildCompute r =>
    exact r.build_within (fun _ _ _ => Refresh.proper) (fun _ _ => Arrange.proper) hencode
      (fun _ => .of_ids .callHook (Context.ids_device _)) h c

end Call

/-! ## Histories -/

namespace Context

variable {c c' : Context} {r : Registry} {id : ResourceId}

/-- The contexts that calls lead through, the first and the last included. -/
def trail (c : Context) : List Call → List Context
  | [] => [c]
  | k :: calls => c :: (k.next c).trail calls

/-- Every call may be made where it is made. -/
def Admits (c : Context) : List Call → Prop
  | [] => True
  | k :: calls => k.Admitted c ∧ (k.next c).Admits calls

/-- The last context that calls lead to. -/
def follow (c : Context) (calls : List Call) : Context := calls.foldl Call.next c

/-- The ids that were ever registered in a store, each once. -/
def everRegistered (history : List Context) (r : Registry) : List ResourceId :=
  (history.flatMap fun c => c.ids r).dedup

theorem self_mem_trail (calls : List Call) : c ∈ c.trail calls := by
  cases calls <;> exact List.mem_cons_self

theorem follow_mem_trail (calls : List Call) : c.follow calls ∈ c.trail calls := by
  induction calls generalizing c with
  | nil => exact List.mem_singleton_self c
  | cons k calls ih => exact List.mem_cons_of_mem _ ih

/-- Through a history the invariant holds and no object is lost. -/
theorem Minting.trail {calls : List Call} (hc : c.Minting) (h : c.Admits calls) :
    (∀ c' ∈ c.trail calls, c'.Minting ∧ Lasting c c' ∧ c'.nextId ≤ (c.follow calls).nextId ∧
      Lasting c' (c.follow calls)) ∧ (c.trail calls).Pairwise Lasting := by
  induction calls generalizing c with
  | nil =>
    refine ⟨fun c' hc' => ?_, List.pairwise_singleton ..⟩
    obtain rfl := List.mem_singleton.1 hc'
    exact ⟨hc, .refl, Nat.le_refl _, .refl⟩
  | cons k calls ih =>
    obtain ⟨hminting, hlasting, hle⟩ := hc.propers (k.propers hc.nextId h.1)
    obtain ⟨hall, hpairs⟩ := ih hminting h.2
    have hlast := (hall _ (self_mem_trail calls)).2.2
    have hrest : ∀ c' ∈ (k.next c).trail calls, Lasting c c' := fun c' hc' =>
      hlasting.trans (hall c' hc').2.1
    refine ⟨fun c' hc' => ?_, List.pairwise_cons.2 ⟨hrest, hpairs⟩⟩
    obtain rfl | hc' := List.mem_cons.1 hc'
    · exact ⟨hc, .refl, Nat.le_trans hle hlast.1, hlasting.trans hlast.2⟩
    · obtain ⟨hm, -, hle', hlast'⟩ := hall c' hc'
      exact ⟨hm, hrest c' hc', hle', hlast'⟩

/-- A store has as many objects as ids were ever registered in it. -/
theorem Minting.size_follow {calls : List Call} (hc : c.Minting) (h : c.Admits calls)
    (r : Registry) :
    (r.shelf.get (c.follow calls)).size = (everRegistered (c.trail calls) r).length := by
  rw [← Store.length_ids]
  refine List.Perm.length_eq ((List.perm_ext_iff_of_nodup Store.nodup_ids (List.nodup_dedup _)).2
    fun id => ?_)
  rw [List.mem_dedup, List.mem_flatMap]
  constructor
  · exact fun hid => ⟨_, follow_mem_trail calls, hid⟩
  · rintro ⟨c', hc', hid⟩
    exact ((hc.trail h).1 c' hc').2.2.2.ids_subset r hid

end Context

section Spec

open Context (Proper Lasting everRegistered)

/-- A pipeline is put under an id that is not taken, and the others stay. -/
theorem Context.Minting.registerPipeline {c : Context} (hc : c.Minting) (p : Pipeline) :
    ∃ c', Work.registerPipeline p c = .ok c.mint.1 c' ∧ c.mint.1 ∉ c.ids .pipelines ∧
      c.pipelines.Lasts Eq c'.pipelines :=
  ⟨_, Work.registerPipeline_eq p c, hc.mint_not_mem, .insert (fun _ => rfl) hc.mint_not_mem⟩

/-- **An id names one object.** Take any history of calls that create resources, under new ids or
under any ids minted earlier, and that compile and record passes, with fewer than 2^32 - 1 mints, so
that ids fit into 32 bits:

* every id in any store was minted before;
* in every later context an id still stands for the same object;
* creating under an id that is in the store already gives back that id and changes nothing, and runs
  no constructor: whatever it would make, or however it would fail, the result is the same;
* at any moment of a call, a pipeline is put under an id that is not taken and replaces nothing; so
  compiling a pass adds one pipeline;
* a store has as many objects as ids were ever registered in it. -/
theorem identity_spec (d : Device) (calls : List Call)
    (h : ({ device := d } : Context).Admits calls)
    (hmints : (({ device := d } : Context).follow calls).mints < 2 ^ 32 - 1) :
    (∀ c ∈ ({ device := d } : Context).trail calls, ∀ r, ∀ id ∈ c.ids r,
      c.Minted id ∧ id.value < 2 ^ 32) ∧
    (({ device := d } : Context).trail calls).Pairwise Lasting ∧
    (∀ c ∈ ({ device := d } : Context).trail calls, ∀ (k : Creation) (id : ResourceId),
      k.wanted = some id → id ∈ c.ids k.registry →
        k.run c = .ok id c ∧
        ∀ make, Work.register k.registry.shelf (some id) make c = .ok id c) ∧
    (∀ c ∈ ({ device := d } : Context).trail calls,
      (∀ c', ReflTransGen Proper c c' → ∀ p, ∃ c'', Work.registerPipeline p c' = .ok c'.mint.1 c'' ∧
        c'.mint.1 ∉ c'.ids .pipelines ∧ c'.pipelines.Lasts Eq c''.pipelines) ∧
      (∀ (d : RenderDesc) (r : RenderPass) (c' : Context), d.compile c = .ok r c' →
        r.pipelineId ∉ c.ids .pipelines ∧ c.AddsPipeline r.pipelineId c') ∧
      ∀ (d : ComputeDesc) (r : ComputePass) (c' : Context), d.compile c = .ok r c' →
        r.pipelineId ∉ c.ids .pipelines ∧ c.AddsPipeline r.pipelineId c') ∧
    ∀ r : Registry, (r.shelf.get (({ device := d } : Context).follow calls)).size =
      (everRegistered (({ device := d } : Context).trail calls) r).length := by
  have hstart := Context.Minting.start d
  obtain ⟨hall, hpairs⟩ := hstart.trail h
  refine ⟨fun c hc r id hid => ?_, hpairs, fun c hc k id hw hid => ?_, fun c hc => ?_,
    hstart.size_follow h⟩
  · obtain ⟨hminting, -, hle, -⟩ := hall c hc
    have hid := hminting.minted r id hid
    have hlt := hid.2
    unfold Context.mints at hmints
    exact ⟨hid, by omega⟩
  · obtain ⟨a, ha⟩ := Store.mem_ids_iff.1 hid
    refine ⟨?_, Work.register_of_some ha⟩
    rw [k.run_eq, hw]
    exact Work.register_of_some ha _
  · obtain ⟨hminting, -⟩ := hall c hc
    refine ⟨fun c' hc' => (hminting.propers hc').1.registerPipeline, fun d r c' hr => ?_,
      fun d r c' hr => ?_⟩
    · have hadds := d.compile_addsPipeline hr
      exact ⟨hadds.1 ▸ hminting.mint_not_mem, hadds⟩
    · have hadds := d.compile_addsPipeline hr
      exact ⟨hadds.1 ▸ hminting.mint_not_mem, hadds⟩

end Spec

namespace SharedNumber

/-- A compute shader without globals. -/
def code : ShaderModule where
  entryPoints := [{ name := "main", stage := .pipeline .compute }]

/-- Creates a sampler, a buffer and a shader under its id, and once more a buffer under it that could
not be made; compiles a pass twice. -/
def calls : List Call :=
  let pass : ComputeDesc := { shader := some ⟨1⟩, dispatch := .workgroups 1 1 1 }
  [.create (.sampler .filtering { lodMin := ⟨0⟩, lodMax := ⟨0x42000000⟩ }),
    .create (.buffer .uniform { id := some ⟨1⟩, size := 16 }),
    .create (.shader .compute { id := some ⟨1⟩, code := code, entryPoint := "main" }),
    .create (.buffer .uniform { id := some ⟨1⟩, size := 0 }),
    .compileCompute pass, .compileCompute pass]

/-- The context that they start from. -/
def start : Context := { device := .start {} }

theorem admits : start.Admits calls := by
  refine ⟨fun _ h => (nomatch h), ?_, ?_, ?_, trivial, trivial, trivial⟩ <;>
  · intro id h
    cases h
    decide +kernel

end SharedNumber

/-- One number stands for a sampler, a buffer and a shader; the second buffer under it is not made. -/
theorem identity_sharedNumber : SharedNumber.start.Admits SharedNumber.calls ∧
    (SharedNumber.start.follow SharedNumber.calls).mints < 2 ^ 32 - 1 ∧
    (SharedNumber.start.trail SharedNumber.calls).Pairwise Context.Lasting ∧
    Context.everRegistered (SharedNumber.start.trail SharedNumber.calls) .buffers = [⟨1⟩] ∧
    (SharedNumber.start.follow SharedNumber.calls).buffers.size = 1 ∧
    (SharedNumber.start.follow SharedNumber.calls).pipelines.size = 2 := by
  have hmints : (SharedNumber.start.follow SharedNumber.calls).mints < 2 ^ 32 - 1 := by
    decide +kernel
  obtain ⟨-, hlasting, -, -, hsize⟩ := identity_spec _ _ SharedNumber.admits hmints
  have hbuffers : Context.everRegistered (SharedNumber.start.trail SharedNumber.calls) .buffers =
      [⟨1⟩] := by decide +kernel
  have hpipelines : Context.everRegistered (SharedNumber.start.trail SharedNumber.calls)
      .pipelines = [⟨2⟩, ⟨3⟩] := by decide +kernel
  exact ⟨SharedNumber.admits, hmints, hlasting, hbuffers,
    (hsize .buffers).trans (congrArg List.length hbuffers),
    (hsize .pipelines).trans (congrArg List.length hpipelines)⟩

end PassForge
