import Mathlib
import PassForge.Proofs.Assignment
import PassForge.Proofs.Distinct
import PassForge.Proofs.Pass.Plan
import PassForge.Proofs.Resource.Acquire

/-!
# What a pass brings up to date

A synchronisation is a list of acquisitions, one for each resource. Which resources it lists follows
from the first name of each id among the uniforms, and for ids without a name from the buffers that the
pass reads besides. An id stands for one resource there, although a buffer, a texture and a sampler may
be registered under the same id: such a resource is left out if another one is named first.

* `SyncPlan.run_eq`: a synchronisation makes its acquisitions one after the other.
* `Context.Asked` is what acquisitions leave of the handlers.
* `SyncPlan.Covers` says which resources are acquired, each once, and when these are all that the pass
  uses; `SyncPlan.forPass_covers` proves it.
* `acquire_spec` is the whole statement.
-/

namespace PassForge

variable {c c' c'' : Context} {p : SyncPoint} {id : ResourceId} {t : UniformTable}
  {reads : List ResourceId}

/-! ## Acquisitions -/

/-- A resource to bring up to date. -/
inductive Acquisition where
  | buffer (id : ResourceId)
  | texture (id : ResourceId)
  deriving DecidableEq

/-- Brings a resource up to date for one point of a pass. -/
def Acquisition.acquire (p : SyncPoint) : Acquisition → Work ResourceError Unit
  | buffer id => Work.on .buffers id (Buffer.acquire p)
  | texture id => Work.on .textures id (Texture.acquire p)

/-- The acquisitions of a synchronisation, in their order. -/
def SyncPlan.acquisitions (s : SyncPlan) : List Acquisition :=
  s.uniformBuffers.map .buffer ++ s.uniformTextures.map .texture ++ s.otherBuffers.map .buffer

/-- **A synchronisation makes its acquisitions one after the other.** -/
theorem SyncPlan.run_eq (s : SyncPlan) (p : SyncPoint) :
    s.run p = s.acquisitions.forM (Acquisition.acquire p) := by
  have hmap (f : ResourceId → Acquisition) (ids : List ResourceId) :
      (ids.map f).forM (Acquisition.acquire p) = ids.forM fun id => (f id).acquire p :=
    List.forM_map
  have happend (as as' : List Acquisition) : (as ++ as').forM (Acquisition.acquire p) = (do
      as.forM (Acquisition.acquire p)
      as'.forM (Acquisition.acquire p)) := List.forM_append
  rw [acquisitions, happend, happend, hmap, hmap, hmap, bind_assoc]
  rfl

/-! ## Handlers -/

/-- What acquisitions leave of the handlers: each has been called as often as its resource has been
acquired. -/
structure Context.Asked (c c' : Context) (p : SyncPoint) (as : List Acquisition) : Prop where
  buffers : ∀ id b, c.buffers.get? id = some b → ∃ b', c'.buffers.get? id = some b' ∧
    b'.handler = b.handler.map (Handler.calledTimes · p (as.count (.buffer id)))
  textures : ∀ id t, c.textures.get? id = some t → ∃ t', c'.textures.get? id = some t' ∧
    t'.handler = t.handler.map (Handler.calledTimes · p (as.count (.texture id)))

namespace Context.Asked

variable {as as' : List Acquisition}

theorem refl : c.Asked c p [] where
  buffers id b hb := ⟨b, hb, by simp⟩
  textures id t ht := ⟨t, ht, by simp⟩

theorem trans (h : c.Asked c' p as) (h' : c'.Asked c'' p as') : c.Asked c'' p (as ++ as') where
  buffers id b hb := by
    obtain ⟨b', hb', hcalls⟩ := h.buffers id b hb
    obtain ⟨b'', hb'', hcalls'⟩ := h'.buffers id b' hb'
    exact ⟨b'', hb'', by simp [hcalls', hcalls, Function.comp_def]⟩
  textures id t ht := by
    obtain ⟨t', ht', hcalls⟩ := h.textures id t ht
    obtain ⟨t'', ht'', hcalls'⟩ := h'.textures id t' ht'
    exact ⟨t'', ht'', by simp [hcalls', hcalls, Function.comp_def]⟩

end Context.Asked

/-- One acquisition calls the handler of its resource once, and no other. -/
theorem Acquisition.acquire_asked {a : Acquisition} (h : a.acquire p c = .ok () c') :
    c.Asked c' p [a] := by
  cases a with
  | buffer id =>
    obtain ⟨b, l, hb, hl, rfl⟩ := on_eq_ok h
    refine ⟨fun id' b' hb' => ?_, fun _ t ht => ⟨t, ht, by simp⟩⟩
    refine Store.exists_get?_update (R := fun id' b b' => b'.handler =
      b.handler.map (Handler.calledTimes · p ([buffer id].count (buffer id')))) hb ?_ ?_ hb'
    · simpa using Buffer.acquire_handler hl
    · exact fun _ _ heq _ => by simp [Ne.symm heq]
  | texture id =>
    obtain ⟨t, l, ht, hl, rfl⟩ := on_eq_ok h
    refine ⟨fun _ b hb => ⟨b, hb, by simp⟩, fun id' t' ht' => ?_⟩
    refine Store.exists_get?_update (R := fun id' t t' => t'.handler =
      t.handler.map (Handler.calledTimes · p ([texture id].count (texture id')))) ht ?_ ?_ ht'
    · simpa using Texture.acquire_handler hl
    · exact fun _ _ heq _ => by simp [Ne.symm heq]

/-- Acquisitions one after the other call each handler as often as its resource is acquired. -/
theorem Acquisition.forM_asked {as : List Acquisition}
    (h : as.forM (Acquisition.acquire p) c = .ok () c') : c.Asked c' p as := by
  induction as generalizing c with
  | nil =>
    cases h
    exact .refl
  | cons a as ih =>
    obtain ⟨_, c₁, hfirst, hrest⟩ := bind_eq_ok h
    exact (acquire_asked hfirst).trans (ih hrest)

/-! ## The resources of a pass -/

namespace UniformTable

/-- Some name gives the resource under an id a role. -/
def Names (t : UniformTable) (id : ResourceId) (role : Role) : Prop :=
  ∃ name a, t.assignment? name = some a ∧ a.resource = id ∧ a.role = role

/-- Whether a buffer is acquired: if it has names, the first must be that of a buffer, and otherwise the
pass must read it. -/
def acquiresBuffer (t : UniformTable) (reads : List ResourceId) (id : ResourceId) : Bool :=
  (t.firstRole? id).elim (reads.contains id) Role.isBoundBuffer

/-- Whether a texture is acquired: its first name must be that of a texture. -/
def acquiresTexture (t : UniformTable) (id : ResourceId) : Bool :=
  (t.firstRole? id).any Role.isTexture

/-- No resource that a pass uses is hidden behind one of another class with the same id that is named
first: `reads` are the buffers that the pass reads besides. -/
structure Unhidden (t : UniformTable) (reads : List ResourceId) : Prop where
  uniformBuffers : ∀ id role first, t.Names id role → role.isBoundBuffer →
    t.firstRole? id = some first → first.isBoundBuffer
  uniformTextures : ∀ id role first, t.Names id role → role.isTexture →
    t.firstRole? id = some first → first.isTexture
  otherBuffers : ∀ id first, id ∈ reads → t.firstRole? id = some first → first.isBoundBuffer

theorem exists_names_iff : (∃ role, t.Names id role) ↔ ∃ first, t.firstRole? id = some first := by
  constructor
  · rintro ⟨role, name, a, ha, rfl, -⟩
    exact Option.isSome_iff_exists.1 (isSome_firstRole? ha)
  · rintro ⟨first, hfirst⟩
    exact ⟨first, exists_of_firstRole? hfirst⟩

theorem acquiresBuffer_iff : t.acquiresBuffer reads id ↔
    ((∃ role, t.Names id role) ∨ id ∈ reads) ∧
      ∀ first, t.firstRole? id = some first → first.isBoundBuffer := by
  rw [acquiresBuffer, exists_names_iff]
  cases t.firstRole? id <;> simp

theorem acquiresTexture_iff : t.acquiresTexture id ↔ (∃ role, t.Names id role) ∧
    ∀ first, t.firstRole? id = some first → first.isTexture := by
  rw [acquiresTexture, exists_names_iff]
  cases t.firstRole? id <;> simp

end UniformTable

/-- A synchronisation acquires each resource that a pass uses once: the buffers and textures that the
uniforms name, and the buffers that the pass reads besides. -/
structure SyncPlan.Complete (s : SyncPlan) (t : UniformTable) (reads : List ResourceId) : Prop where
  uniformBuffers : ∀ id role, t.Names id role → role.isBoundBuffer →
    s.acquisitions.count (.buffer id) = 1
  uniformTextures : ∀ id role, t.Names id role → role.isTexture →
    s.acquisitions.count (.texture id) = 1
  otherBuffers : ∀ id ∈ reads, s.acquisitions.count (.buffer id) = 1

/-- A synchronisation of a pass with some uniforms that reads some buffers besides: each resource is
acquired once or not at all. It is complete exactly if no resource is hidden; in particular, what is
named or read is acquired if all of its names agree that it is a buffer, or that it is a texture. -/
structure SyncPlan.Covers (s : SyncPlan) (t : UniformTable) (reads : List ResourceId) : Prop where
  buffers : ∀ id, s.acquisitions.count (.buffer id) = if t.acquiresBuffer reads id then 1 else 0
  textures : ∀ id, s.acquisitions.count (.texture id) = if t.acquiresTexture id then 1 else 0
  complete : s.Complete t reads ↔ t.Unhidden reads
  onlyBuffer : ∀ id, (∃ role, t.Names id role) ∨ id ∈ reads →
    (∀ role, t.Names id role → role.isBoundBuffer) → s.acquisitions.count (.buffer id) = 1
  onlyTexture : ∀ id role, t.Names id role → (∀ role, t.Names id role → role.isTexture) →
    s.acquisitions.count (.texture id) = 1

namespace SyncPlan

theorem count_buffer (s : SyncPlan) :
    s.acquisitions.count (.buffer id) = s.uniformBuffers.count id + s.otherBuffers.count id := by
  have hinj : Function.Injective Acquisition.buffer := fun _ _ => Acquisition.buffer.inj
  have hnone : (s.uniformTextures.map Acquisition.texture).count (.buffer id) = 0 :=
    List.count_eq_zero.2 (by simp)
  rw [acquisitions, List.count_append, List.count_append, hnone,
    List.count_map_of_injective _ _ hinj, List.count_map_of_injective _ _ hinj, Nat.add_zero]

theorem count_texture (s : SyncPlan) :
    s.acquisitions.count (.texture id) = s.uniformTextures.count id := by
  have hinj : Function.Injective Acquisition.texture := fun _ _ => Acquisition.texture.inj
  have hnone (ids : List ResourceId) : (ids.map Acquisition.buffer).count (.texture id) = 0 :=
    List.count_eq_zero.2 (by simp)
  rw [acquisitions, List.count_append, List.count_append, hnone, hnone,
    List.count_map_of_injective _ _ hinj, Nat.zero_add, Nat.add_zero]

/-- A buffer that is read besides the uniforms is listed once, if no uniform names its id. -/
theorem count_otherBuffers : (forPass t reads).otherBuffers.count id =
    if id ∈ reads ∧ t.firstRole? id = none then 1 else 0 := by
  show (reads.filter fun id => !t.mentions id).eraseDups.count id = _
  rw [(nodup_eraseDups _).count]
  simp [List.mem_eraseDups, UniformTable.mentions_eq]

theorem count_forPass_buffer : (forPass t reads).acquisitions.count (.buffer id) =
    if t.acquiresBuffer reads id then 1 else 0 := by
  rw [count_buffer, count_otherBuffers, UniformTable.acquiresBuffer]
  show (t.whoseRole Role.isBoundBuffer).count id + _ = _
  rw [UniformTable.count_whoseRole]
  cases t.firstRole? id <;> simp

theorem count_forPass_texture : (forPass t reads).acquisitions.count (.texture id) =
    if t.acquiresTexture id then 1 else 0 :=
  (count_texture _).trans (UniformTable.count_whoseRole Role.isTexture)

theorem forPass_buffer_iff : (forPass t reads).acquisitions.count (.buffer id) = 1 ↔
    ((∃ role, t.Names id role) ∨ id ∈ reads) ∧
      ∀ first, t.firstRole? id = some first → first.isBoundBuffer := by
  rw [count_forPass_buffer, ← UniformTable.acquiresBuffer_iff]
  simp

theorem forPass_texture_iff : (forPass t reads).acquisitions.count (.texture id) = 1 ↔
    (∃ role, t.Names id role) ∧ ∀ first, t.firstRole? id = some first → first.isTexture := by
  rw [count_forPass_texture, ← UniformTable.acquiresTexture_iff]
  simp

/-- All that a pass uses is acquired exactly if nothing is hidden. -/
theorem forPass_complete_iff : (forPass t reads).Complete t reads ↔ t.Unhidden reads := by
  constructor
  · intro h
    refine ⟨fun id role first hname hrole => ?_, fun id role first hname hrole => ?_,
      fun id first hread => ?_⟩
    · exact (forPass_buffer_iff.1 (h.uniformBuffers id role hname hrole)).2 first
    · exact (forPass_texture_iff.1 (h.uniformTextures id role hname hrole)).2 first
    · exact (forPass_buffer_iff.1 (h.otherBuffers id hread)).2 first
  · intro h
    refine ⟨fun id role hname hrole => ?_, fun id role hname hrole => ?_, fun id hread => ?_⟩
    · exact forPass_buffer_iff.2
        ⟨.inl ⟨role, hname⟩, fun first => h.uniformBuffers id role first hname hrole⟩
    · exact forPass_texture_iff.2
        ⟨⟨role, hname⟩, fun first => h.uniformTextures id role first hname hrole⟩
    · exact forPass_buffer_iff.2 ⟨.inr hread, fun first => h.otherBuffers id first hread⟩

/-- **A pass acquires each resource once or not at all**, as its first name says. -/
theorem forPass_covers (t : UniformTable) (reads : List ResourceId) :
    (forPass t reads).Covers t reads where
  buffers _ := count_forPass_buffer
  textures _ := count_forPass_texture
  complete := forPass_complete_iff
  onlyBuffer _ hname honly := forPass_buffer_iff.2
    ⟨hname, fun first hfirst => honly first (UniformTable.exists_of_firstRole? hfirst)⟩
  onlyTexture _ role hname honly := forPass_texture_iff.2
    ⟨⟨role, hname⟩, fun first hfirst => honly first (UniformTable.exists_of_firstRole? hfirst)⟩

end SyncPlan

/-- **What a compiled pass brings up to date.** A synchronisation makes a list of acquisitions, which
call the handler of each resource as often as it is acquired: once or not at all. It acquires every
buffer and texture that the uniforms name and every buffer that the pass reads besides exactly if none
of them is hidden behind a resource of another class with the same id that is named first. -/
theorem acquire_spec (c c' : Context) (p : SyncPoint) :
    (∀ (d : RenderDesc) (r : RenderPass), d.compile c = .ok r c' →
      ∃ table, d.uniforms.uniforms = .ok table ∧
        r.sync.Covers table (r.vertexBuffers ++ r.draw.buffers)) ∧
    (∀ (d : ComputeDesc) (r : ComputePass), d.compile c = .ok r c' →
      ∃ table, d.uniforms.uniforms = .ok table ∧ r.sync.Covers table r.dispatch.buffers) ∧
    ∀ s : SyncPlan, s.run p = s.acquisitions.forM (Acquisition.acquire p) ∧
      (s.run p c = .ok () c' → c.Asked c' p s.acquisitions) := by
  refine ⟨fun d r h => ?_, fun d r h => ?_, fun s => ⟨s.run_eq p, fun h => ?_⟩⟩
  · obtain ⟨plan, c₁, hp, hf⟩ := bind_eq_ok h
    obtain ⟨hbuffers, -, hdraw, hsync, -⟩ := RenderDesc.finish_eq_ok hf
    rw [hsync, hbuffers, hdraw]
    exact ⟨plan.uniforms, (RenderDesc.prepare_eq_ok hp).1, SyncPlan.forPass_covers ..⟩
  · obtain ⟨plan, c₁, hp, hf⟩ := bind_eq_ok h
    obtain ⟨-, hdispatch, -, hsync, -⟩ := ComputeDesc.finish_eq_ok hf
    rw [hsync, hdispatch]
    exact ⟨plan.uniforms, (ComputeDesc.prepare_eq_ok hp).1, SyncPlan.forPass_covers ..⟩
  · rw [s.run_eq] at h
    exact Acquisition.forM_asked h

namespace SharedId

/-- A compute shader that uses a sampler and two buffers. -/
def code : ShaderModule where
  globals := [
    { name := "nearest", space := .handle, type := .sampler false, slot := some ⟨0, 0⟩ },
    { name := "params", space := .uniform, type := .vector 4 ⟨.float, 4⟩, slot := some ⟨0, 1⟩ },
    { name := "values", space := .storage true, type := .array (.scalar ⟨.uint, 4⟩) none,
      slot := some ⟨0, 2⟩ }]
  entryPoints := [
    { name := "main", stage := .pipeline .compute, uses := ["nearest", "params", "values"] }]

/-- Creates a sampler, a uniform buffer under the id of the sampler, a storage buffer and the shader.
The buffers have handlers. -/
def setup : Work ResourceError Unit := do
  let sampler ← Work.createSampler .filtering { lodMin := ⟨0⟩, lodMax := ⟨0x42000000⟩ }
  let _ ← Work.createBuffer .uniform
    { id := some sampler, size := 16, handler := some (.scripted [] []) }
  let _ ← Work.createBuffer .storage { size := 64, handler := some (.scripted [] []) }
  let _ ← Work.createShader .compute { code := code, entryPoint := "main" }

/-- The context with these resources. -/
def context : Context := after setup (.start {})

/-- A pass that binds all of them. -/
def pass : ComputeDesc where
  shader := some ⟨3⟩
  uniforms := .ofList [("nearest", ⟨⟨1⟩, .textureSampler⟩), ("params", ⟨⟨1⟩, .uniformBuffer⟩),
    ("values", ⟨⟨2⟩, .storageBuffer⟩)]
  dispatch := .workgroups 1 1 1

/-- The calls of the handler of a buffer. -/
def calls (c : Context) (id : ResourceId) : Option (List SyncPoint) :=
  (c.buffers.get? id).bind fun b => b.handler.map Handler.calls

/-- What compiling the pass leaves. -/
def compiled : Context := after pass.compile context

/-- The plan of the pass: of its two buffers it has the storage buffer only. -/
def plan : SyncPlan where
  uniformBuffers := [⟨2⟩]

/-- What the synchronisation before the pass leaves. -/
def synced : Context := after (plan.run .before) compiled

theorem compiles : ∃ r, pass.compile context = .ok r compiled ∧ r.sync = plan := by
  have hout : (outcome pass.compile context).map ComputePass.sync = .ok plan := by cbv
  cases h : outcome pass.compile context with
  | error e =>
    rw [h] at hout
    cases hout
  | ok r =>
    rw [h] at hout
    exact ⟨r, eq_ok_of_outcome h, Except.ok.inj hout⟩

theorem syncs : plan.run .before compiled = .ok () synced :=
  eq_ok_of_outcome (by cbv)

end SharedId

/-- The handler of the storage buffer is called once before the pass. -/
theorem acquire_sharedId : ∃ r, SharedId.pass.compile SharedId.context = .ok r SharedId.compiled ∧
    (∃ table, SharedId.pass.uniforms.uniforms = .ok table ∧
      r.sync.Covers table r.dispatch.buffers) ∧
    r.sync.run .before SharedId.compiled = .ok () SharedId.synced ∧
    SharedId.compiled.Asked SharedId.synced .before r.sync.acquisitions ∧
    SharedId.calls SharedId.synced ⟨2⟩ = some [.before] := by
  obtain ⟨r, h, hsync⟩ := SharedId.compiles
  have hrun : r.sync.run .before SharedId.compiled = .ok () SharedId.synced :=
    hsync ▸ SharedId.syncs
  exact ⟨r, h, (acquire_spec _ _ .before).2.1 _ _ h, hrun,
    ((acquire_spec _ _ .before).2.2 r.sync).2 hrun, by cbv⟩

/-- The uniform buffer is named by the uniforms of the pass, but so is a sampler with the same id, and
the name of the sampler comes first: the buffer is not acquired and its handler is not called. -/
theorem exists_buffer_not_acquired :
    ∃ r, SharedId.pass.compile SharedId.context = .ok r SharedId.compiled ∧
      r.sync.run .before SharedId.compiled = .ok () SharedId.synced ∧
      SharedId.pass.uniforms.get? "params" = some ⟨⟨1⟩, .uniformBuffer⟩ ∧
      r.sync.acquisitions.count (.buffer ⟨1⟩) = 0 ∧
      SharedId.calls SharedId.compiled ⟨1⟩ = some [] ∧
      SharedId.calls SharedId.synced ⟨1⟩ = some [] := by
  obtain ⟨r, h, hsync⟩ := SharedId.compiles
  refine ⟨r, h, hsync ▸ SharedId.syncs, by cbv, ?_, by cbv, by cbv⟩
  rw [hsync]
  decide

end PassForge
