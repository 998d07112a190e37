import Mathlib
import PassForge.Proofs.Context.Steady
import PassForge.Proofs.Pass.Acquire
import PassForge.Proofs.Pass.Supplied
import PassForge.Proofs.Resource.Refusal

/-!
# Why recording a compiled pass fails

Once a pass is compiled, recording it fails for a few reasons only, whatever has happened to the context
since: modes, cursors, views and device objects that other passes have left behind are none of them.

* `Context.Fault` lists the reasons, each in terms of the context that the failure leaves.
  `RenderPass.build_faults` and `ComputePass.build_faults` say that there are no others but the errors of
  a hook.
* `Context.Ready` says that none of them is there; `Context.Steady` is what recording leaves of that
  (`Ready.not_fault`). So a pass that is ready is recorded.
* `buildable_spec` is the whole statement.
-/

namespace PassForge

open Context (Arrange Lasting Refresh Step)
open Relation (ReflTransGen)

variable {c c' c₀ : Context} {id : ResourceId} {p : SyncPoint} {e : ResourceError}
  {t : UniformTable} {reads : List ResourceId} {attached : ResourceId → Nat → Prop}

/-! ## Reasons -/

/-- The uniforms name a buffer by an id. -/
def UniformTable.NamesBuffer (t : UniformTable) (id : ResourceId) : Prop :=
  ∃ role, t.Names id role ∧ role.isBoundBuffer

/-- The uniforms name a texture by an id. -/
def UniformTable.NamesTexture (t : UniformTable) (id : ResourceId) : Prop :=
  ∃ role, t.Names id role ∧ role.isTexture

/-- Why a recording of a pass has failed that leaves a context: `t` are the uniforms of the pass, `reads`
the buffers that it reads besides, and `attached` says which layers of which textures it renders into.

* A uniform names a buffer or a texture that is not registered.
* A texture that is named or rendered into is on the surface, and there is no image of the frame.
* A handler of a buffer or of a texture of the pass has asked for a write that is refused.
* A layer that is rendered into cannot be. -/
inductive Context.Fault (c : Context) (t : UniformTable) (reads : List ResourceId)
    (attached : ResourceId → Nat → Prop) : ResourceError → Prop
  | unknownBuffer {id : ResourceId} (hid : t.NamesBuffer id) (h : id ∉ c.ids .buffers) :
      Fault c t reads attached (.unknownResource "buffer" id)
  | unknownTexture {id : ResourceId} (hid : t.NamesTexture id) (h : id ∉ c.ids .textures) :
      Fault c t reads attached (.unknownResource "texture" id)
  | noSurface {id : ResourceId} {texture : Texture}
      (hid : t.NamesTexture id ∨ ∃ layer, attached id layer)
      (h : c.textures.get? id = some texture) (hmissing : texture.Missing c.device) :
      Fault c t reads attached .surfaceUnavailable
  | bufferWrite {id : ResourceId} {b : Buffer} {p : SyncPoint} {w : BufferWrite} {e : ResourceError}
      (hid : t.NamesBuffer id ∨ id ∈ reads) (h : c.buffers.get? id = some b)
      (hasked : Handler.Asked b.handler p w) (hrefused : w.Refused b e) :
      Fault c t reads attached e
  | textureWrite {id : ResourceId} {texture : Texture} {p : SyncPoint} {w : TextureWrite}
      {e : ResourceError} (hid : t.NamesTexture id) (h : c.textures.get? id = some texture)
      (hasked : Handler.Asked texture.handler p w) (hrefused : w.Refused texture e) :
      Fault c t reads attached e
  | target {id : ResourceId} {layer : Nat} {texture : Texture} {e : ResourceError}
      (hid : attached id layer) (h : c.textures.get? id = some texture)
      (hrefused : texture.TargetRefused layer e) : Fault c t reads attached e

/-! ## Synchronisations -/

theorem Acquisition.acquire_refreshes (a : Acquisition) : Runs (Refresh p) (a.acquire p) := by
  cases a with
  | buffer id => exact Work.on_buffer_refreshes (Buffer.acquire_refreshes p)
  | texture id => exact Work.on_texture_refreshes (Texture.acquire_refreshes p)

/-- What a synchronisation of a pass acquires as a buffer is named as one, or read besides. -/
theorem SyncPlan.names_of_buffer (h : .buffer id ∈ (forPass t reads).acquisitions) :
    t.NamesBuffer id ∨ id ∈ reads := by
  have hcount : (forPass t reads).acquisitions.count (.buffer id) ≠ 0 :=
    (List.count_pos_iff.2 h).ne'
  rw [count_forPass_buffer] at hcount
  have hacquires : t.acquiresBuffer reads id := by
    by_contra hne
    exact hcount (if_neg hne)
  obtain ⟨⟨role, hname⟩ | hread, hfirst⟩ := UniformTable.acquiresBuffer_iff.1 hacquires
  · obtain ⟨first, hrole⟩ := UniformTable.exists_names_iff.1 ⟨role, hname⟩
    exact .inl ⟨first, UniformTable.exists_of_firstRole? hrole, hfirst first hrole⟩
  · exact .inr hread

/-- What a synchronisation of a pass acquires as a texture is named as one. -/
theorem SyncPlan.names_of_texture (h : .texture id ∈ (forPass t reads).acquisitions) :
    t.NamesTexture id := by
  have hcount : (forPass t reads).acquisitions.count (.texture id) ≠ 0 :=
    (List.count_pos_iff.2 h).ne'
  rw [count_forPass_texture] at hcount
  have hacquires : t.acquiresTexture id := by
    by_contra hne
    exact hcount (if_neg hne)
  obtain ⟨hname, hfirst⟩ := UniformTable.acquiresTexture_iff.1 hacquires
  obtain ⟨first, hrole⟩ := UniformTable.exists_names_iff.1 hname
  exact ⟨first, UniformTable.exists_of_firstRole? hrole, hfirst first hrole⟩

theorem Acquisition.acquireBuffer_faults (hc : c.Reachable) (hid : t.NamesBuffer id ∨ id ∈ reads)
    (hreads : id ∈ reads → id ∈ c.ids .buffers) (h : (buffer id).acquire p c = .error e c') :
    c'.Fault t reads attached e := by
  obtain ⟨hnone, rfl, rfl⟩ | ⟨b, l, hb, hl, rfl⟩ := on_eq_error h
  · have hnot : id ∉ c'.ids .buffers := Store.not_mem_ids_iff.2 hnone
    have hkind : c'.buffers.kind = "buffer" := hc.kind .buffers
    have hname := hid.resolve_right fun hread => hnot (hreads hread)
    exact hkind ▸ .unknownBuffer hname hnot
  · have hget : (Shelf.buffers.put id l c).buffers.get? id = some l.object :=
      @Shelf.get?_put _ .buffers _ c id b l hb
    obtain ⟨w, hasked, hrefused⟩ := Buffer.acquire_eq_error hl
    exact .bufferWrite hid hget hasked hrefused

theorem Acquisition.acquireTexture_faults (hc : c.Reachable) (hid : t.NamesTexture id)
    (h : (texture id).acquire p c = .error e c') : c'.Fault t reads attached e := by
  obtain ⟨hnone, rfl, rfl⟩ | ⟨texture, l, htexture, hl, rfl⟩ := on_eq_error h
  · have hnot : id ∉ c'.ids .textures := Store.not_mem_ids_iff.2 hnone
    have hkind : c'.textures.kind = "texture" := hc.kind .textures
    exact hkind ▸ .unknownTexture hid hnot
  · have hget : (Shelf.textures.put id l c).textures.get? id = some l.object :=
      @Shelf.get?_put _ .textures _ c id texture l htexture
    obtain ⟨rfl, hmissing⟩ | ⟨w, hasked, hrefused⟩ := Texture.acquire_eq_error hl
    · exact .noSurface (.inl hid) hget hmissing
    · exact .textureWrite hid hget hasked hrefused

/-- A synchronisation of a pass that fails does so for one of the reasons. -/
theorem SyncPlan.run_faults (hc : c.Reachable) (hreads : ∀ id ∈ reads, id ∈ c.ids .buffers)
    (h : (forPass t reads).run p c = .error e c') : c'.Fault t reads attached e := by
  rw [run_eq] at h
  obtain ⟨a, ha, c₁, hsteps, h⟩ := forM_eq_error Acquisition.acquire_refreshes h
  replace hsteps : ReflTransGen Step c c₁ := ReflTransGen.mono (fun _ _ => Refresh.step) _ _ hsteps
  have hkept : c.ids .buffers ⊆ c₁.ids .buffers := (Context.lasting_of_steps hc hsteps).ids_subset _
  cases a with
  | buffer id =>
    exact Acquisition.acquireBuffer_faults (hc.steps hsteps) (names_of_buffer ha)
      (fun hread => hkept (hreads id hread)) h
  | texture id => exact Acquisition.acquireTexture_faults (hc.steps hsteps) (names_of_texture ha) h

/-! ## Attachments -/

/-- Reading the view of a registered texture that is rendered into fails for one of the reasons. -/
theorem Work.targetView_faults {layer : Nat} (hid : attached id layer) (hk : id ∈ c.ids .textures)
    (h : Work.targetView id layer c = .error e c') : c'.Fault t reads attached e := by
  rw [Work.targetView_eq] at h
  obtain ⟨hnone, -, -⟩ | ⟨texture, l, htexture, hl, rfl⟩ := on_eq_error h
  · exact absurd hk (Store.not_mem_ids_iff.2 hnone)
  · have hget : (Shelf.textures.put id l c).textures.get? id = some l.object :=
      @Shelf.get?_put _ .textures _ c id texture l htexture
    obtain ⟨rfl, hmissing⟩ | hrefused := Texture.attachView_eq_error hl
    · exact .noSurface (.inr ⟨layer, hid⟩) hget hmissing
    · exact .target hid hget hrefused

namespace RenderPass

variable {r : RenderPass}

theorem colorPass_faults (hs : r.Supplied c₀) (hc : Lasting c₀ c) (hid : id ∈ r.colors)
    (h : Work.colorPass id c = .error e c') : c'.Fault t reads (r.Attaches c₀) e := by
  have ⟨a, ha⟩ : ∃ a, c₀.colorAttachments.get? id = some a :=
    Store.mem_ids_iff.1 (hs.colors id hid)
  have hkept : c₀.ids .textures ⊆ c.ids .textures := hc.ids_subset .textures
  have hattaches : r.Attaches c₀ a.texture a.layer := .color hid ha
  have hfind : Work.find .colorAttachments id c = .ok a c := find_of_some (hc.colorAttachment ha)
  unfold Work.colorPass at h
  rw [bind_of_ok hfind] at h
  obtain h | ⟨v, c₁, hview, h⟩ := bind_eq_error h
  · exact Work.targetView_faults hattaches (hkept (hs.textures _ _ hattaches)) h
  · cases hr : a.resolve with
    | none =>
      rw [hr] at h
      cases h
    | some target =>
      have hresolves : r.Attaches c₀ target 0 := .resolve hid ha hr
      have hkept' : c.ids .textures ⊆ c₁.ids .textures :=
        (Work.lasting_of_targetView hview).ids_subset .textures
      rw [hr] at h
      obtain h | ⟨resolve, c₂, -, h⟩ := bind_eq_error h
      · rw [map_eq_pure_bind] at h
        obtain h | ⟨v', c₃, -, h⟩ := bind_eq_error h
        · exact Work.targetView_faults hresolves
            (hkept' (hkept (hs.textures _ _ hresolves))) h
        · cases h
      · cases h

theorem depthPass_faults (hs : r.Supplied c₀) (hc : Lasting c₀ c) (hid : r.depth = some id)
    (h : Work.depthPass id c = .error e c') : c'.Fault t reads (r.Attaches c₀) e := by
  have ⟨a, ha⟩ : ∃ a, c₀.depthAttachments.get? id = some a :=
    Store.mem_ids_iff.1 (hs.depth id hid)
  have hattaches : r.Attaches c₀ a.texture 0 := .depth hid ha
  have hregistered : a.texture ∈ c.ids .textures :=
    hc.ids_subset .textures (hs.textures _ _ hattaches)
  have hfind : Work.find .depthAttachments id c = .ok a c := find_of_some (hc.depthAttachment ha)
  unfold Work.depthPass at h
  rw [bind_of_ok hfind] at h
  obtain h | ⟨v, c₁, hview, h⟩ := bind_eq_error h
  · exact Work.targetView_faults hattaches hregistered h
  · -- the texture whose view was just read is still there
    obtain ⟨texture, htexture⟩ := Store.mem_ids_iff.1
      ((Work.lasting_of_targetView hview).ids_subset .textures hregistered)
    have hfound : Work.find .textures a.texture c₁ = .ok texture c₁ := find_of_some htexture
    rw [bind_of_ok hfound] at h
    cases h

end RenderPass

/-! ## Commands -/

section Commands

/-- Some buffers are registered. -/
def Context.Holds (ids : List ResourceId) (c : Context) : Prop := ∀ id ∈ ids, id ∈ c.ids .buffers

variable {ids : List ResourceId}

theorem Work.bufferHandle_succeeds (hid : id ∈ ids) :
    Succeeds (Context.Holds ids) (Work.on .buffers id Buffer.handle) := by
  intro c hc
  obtain ⟨b, hb⟩ := Store.mem_ids_iff.1 (hc id hid)
  obtain ⟨serial, l, hl⟩ := Buffer.exists_handle_eq_ok ⟨b, c.device⟩
  refine ⟨serial, _, on_of_ok hb hl, fun id' hid' => ?_⟩
  exact (Context.ids_put .buffers .buffers).symm ▸ hc id' hid'

theorem Work.findBuffer_succeeds (hid : id ∈ ids) :
    Succeeds (Context.Holds ids) (Work.find .buffers id) := by
  intro c hc
  obtain ⟨b, hb⟩ := Store.mem_ids_iff.1 (hc id hid)
  exact ⟨b, c, find_of_some hb, hc⟩

/-- The commands of a draw are there if its buffers are registered. -/
theorem Draw.commands_succeeds {d : Draw} (hd : ∀ id ∈ d.buffers, id ∈ ids) :
    Succeeds (Context.Holds ids) d.commands := by
  have hhandle : ∀ id ∈ d.buffers, Succeeds (Context.Holds ids) (Work.on .buffers id Buffer.handle) :=
    fun id hid => Work.bufferHandle_succeeds (hd id hid)
  cases d with
  | vertices count instances => exact succeeds_pure _
  | indexed index instances =>
    exact (hhandle index (by simp [buffers, index?])).bind fun _ =>
      (Work.findBuffer_succeeds (hd index (by simp [buffers, index?]))).bind fun _ => succeeds_pure _
  | indirect arguments =>
    exact (succeeds_pure []).bind fun _ => (((hhandle arguments
      (by simp [buffers, index?, arguments?])).map _).seq (succeeds_pure 0)).bind fun _ => succeeds_pure _
  | indexedIndirect index arguments =>
    exact (hhandle index (by simp [buffers, index?])).bind fun _ => (((hhandle arguments
      (by simp [buffers, arguments?])).map _).seq (succeeds_pure 0)).bind fun _ => succeeds_pure _
  | multiIndirect arguments count =>
    exact (hhandle arguments (by simp [buffers, arguments?])).bind fun _ => succeeds_pure _
  | multiIndexedIndirect index arguments count =>
    exact (hhandle index (by simp [buffers, index?])).bind fun _ =>
      (hhandle arguments (by simp [buffers, arguments?])).bind fun _ => succeeds_pure _

theorem Dispatch.command_succeeds {d : Dispatch} (hd : ∀ id ∈ d.buffers, id ∈ ids) :
    Succeeds (Context.Holds ids) d.command := by
  cases d with
  | workgroups x y z => exact succeeds_pure _
  | indirect id offset =>
    exact (Work.bufferHandle_succeeds (hd id (List.mem_singleton_self id))).bind fun _ =>
      succeeds_pure _

end Commands

/-! ## Recording -/

namespace RenderPass

variable {r : RenderPass}

/-- The commands of a pass are there if its buffers are registered. -/
theorem commands_succeeds (r : RenderPass) :
    Succeeds (Context.Holds (r.vertexBuffers ++ r.draw.buffers)) r.commands := by
  have hvertices : ∀ id ∈ r.vertexBuffers, id ∈ r.vertexBuffers ++ r.draw.buffers :=
    fun _ hid => List.mem_append_left _ hid
  have hdraw : ∀ id ∈ r.draw.buffers, id ∈ r.vertexBuffers ++ r.draw.buffers :=
    fun _ hid => List.mem_append_right _ hid
  exact (Succeeds.mapM fun id hid => Work.bufferHandle_succeeds (hvertices id hid)).bind fun _ =>
    (Draw.commands_succeeds hdraw).bind fun _ => succeeds_pure _

/-- Encoding a pass fails for the views of its attachments only. -/
theorem encode_faults (hs : r.Supplied c₀) (hc : Lasting c₀ c) (h : r.encode c = .error e c') :
    c'.Fault t reads (r.Attaches c₀) e := by
  unfold encode at h
  obtain h | ⟨colors, c₁, hcolors, h⟩ := bind_eq_error h
  · obtain ⟨id, hid, c₁, harrange, h⟩ := mapM_eq_error Work.colorPass_arranges h
    exact colorPass_faults hs (hc.trans (Context.lasting_of_arranges harrange)) hid h
  have hc₁ : Lasting c₀ c₁ := hc.trans
    (Context.lasting_of_arranges ((Runs.mapM Work.colorPass_arranges _).of_eq_ok hcolors))
  obtain h | ⟨depth, c₂, hdepth, h⟩ := bind_eq_error h
  · cases hid : r.depth with
    | none =>
      rw [hid] at h
      cases h
    | some id =>
      rw [hid] at h
      replace h : (some <$> Work.depthPass id) c₁ = .error e c' := h
      rw [map_eq_pure_bind] at h
      obtain h | ⟨_, _, -, h⟩ := bind_eq_error h
      · exact depthPass_faults hs hc₁ hid h
      · cases h
  have hc₂ : Lasting c₀ c₂ :=
    hc₁.trans (Context.lasting_of_arranges (r.depth_arranges.of_eq_ok hdepth))
  obtain ⟨commands, c₃, hcommands, -⟩ := r.commands_succeeds c₂ fun id hid =>
    hc₂.ids_subset .buffers (hs.buffers id hid)
  rw [bind_of_ok hcommands] at h
  cases h

/-- **Recording a compiled render pass fails for one of the reasons**, whatever has happened since. -/
theorem build_faults (hc₀ : c₀.Reachable) (hs : r.Supplied c₀)
    (hsync : r.sync = .forPass t (r.vertexBuffers ++ r.draw.buffers)) (hsteps : ReflTransGen Step c₀ c)
    (h : r.build c = .error e c') :
    c'.Fault t (r.vertexBuffers ++ r.draw.buffers) (r.Attaches c₀) e := by
  have hrun {c₁ c₂ : Context} {p : SyncPoint} (hsteps : ReflTransGen Step c₀ c₁)
      (h : r.sync.run p c₁ = .error e c₂) :
      c₂.Fault t (r.vertexBuffers ++ r.draw.buffers) (r.Attaches c₀) e := by
    rw [hsync] at h
    refine SyncPlan.run_faults (hc₀.steps hsteps) (fun id hid => ?_) h
    exact (Context.lasting_of_steps hc₀ hsteps).ids_subset .buffers (hs.buffers id hid)
  by_cases hcolors : r.colors = []
  · rw [build_of_nil hcolors] at h
    exact hrun hsteps h
  · rw [build_of_ne hcolors] at h
    obtain h | ⟨_, c₁, hbefore, h⟩ := bind_eq_error h
    · exact hrun hsteps h
    have hsteps₁ : ReflTransGen Step c₀ c₁ :=
      hsteps.trans ((r.sync.run_within (fun _ _ _ => Refresh.step) .before).of_eq_ok hbefore)
    obtain h | ⟨_, c₂, hencode, h⟩ := bind_eq_error h
    · exact encode_faults hs (Context.lasting_of_steps hc₀ hsteps₁) h
    · refine hrun (hsteps₁.trans ?_) h
      exact (r.encode_within (fun _ _ => Arrange.step) fun _ _ => .encode).of_eq_ok hencode

end RenderPass

namespace ComputePass

variable {r : ComputePass}

theorem commands_succeeds (r : ComputePass) :
    Succeeds (Context.Holds r.dispatch.buffers) r.commands :=
  (Dispatch.command_succeeds fun _ hid => hid).bind fun _ => succeeds_pure _

/-- **Recording a compiled compute pass fails for one of the reasons or in its hook**, whatever has
happened since. -/
theorem build_faults (hc₀ : c₀.Reachable) (hs : r.Supplied c₀)
    (hsync : r.sync = .forPass t r.dispatch.buffers)
    (hhook : ∀ hook, r.hook = some hook → Runs Step hook) (hsteps : ReflTransGen Step c₀ c)
    (h : r.build c = .error e c') : c'.Fault t r.dispatch.buffers attached e ∨
      ∃ hook late, r.hook = some hook ∧ ReflTransGen Step c late ∧ hook late = .error e c' := by
  have hrun {c₁ c₂ : Context} {p : SyncPoint} (hsteps : ReflTransGen Step c₀ c₁)
      (h : r.sync.run p c₁ = .error e c₂) : c₂.Fault t r.dispatch.buffers attached e := by
    rw [hsync] at h
    refine SyncPlan.run_faults (hc₀.steps hsteps) (fun id hid => ?_) h
    exact (Context.lasting_of_steps hc₀ hsteps).ids_subset .buffers (hs id hid)
  obtain h | ⟨_, c₁, hbefore, h⟩ := bind_eq_error h
  · exact .inl (hrun hsteps h)
  have hfirst : ReflTransGen Step c c₁ :=
    (r.sync.run_within (fun _ _ _ => Refresh.step) .before).of_eq_ok hbefore
  obtain h | ⟨_, c₂, hencode, h⟩ := bind_eq_error h
  · obtain ⟨commands, c₂, hcommands, -⟩ := r.commands_succeeds c₁ fun id hid =>
      (Context.lasting_of_steps hc₀ (hsteps.trans hfirst)).ids_subset .buffers (hs id hid)
    unfold encode at h
    rw [bind_of_ok hcommands] at h
    cases h
  have hsecond : ReflTransGen Step c₁ c₂ :=
    (r.encode_within (fun _ _ => Arrange.step) fun _ _ => .encode).of_eq_ok hencode
  have hmid : ReflTransGen Step c c₂ := hfirst.trans hsecond
  obtain h | ⟨_, c₃, hcalled, h⟩ := bind_eq_error h
  · unfold runHook at h
    cases hh : r.hook with
    | none =>
      rw [hh] at h
      cases h
    | some hook =>
      rw [hh] at h
      exact .inr ⟨hook, _, rfl, hmid.tail .callHook, h⟩
  · refine .inl (hrun ((hsteps.trans hmid).trans ?_) h)
    exact (r.runHook_within (fun _ => .callHook) hhook).of_eq_ok hcalled

end ComputePass

/-! ## Passes that are ready -/

/-- A handler, if there is one, only ever asks for writes that satisfy a condition. -/
def Handler.AsksOnly {ω : Type} (P : ω → Prop) (h : Option (Handler ω)) : Prop :=
  ∀ handler, h = some handler → ∀ earlier p, ∀ w ∈ (handler.reply earlier p).getD [], P w

theorem Handler.AsksOnly.asked {ω : Type} {P : ω → Prop} {h h' : Option (Handler ω)} {w : ω}
    (ha : AsksOnly P h) (heq : h'.map Handler.reply = h.map Handler.reply) (hw : Asked h' p w) :
    P w := by
  obtain ⟨before, rfl, hw⟩ := hw
  obtain ⟨handler, hh, hreply⟩ := Option.map_eq_some_iff.1 heq.symm
  have hasked : w ∈ (handler.reply before.calls p).getD [] := hreply ▸ hw
  exact ha handler hh before.calls p w hasked

/-- What is refused depends on what no step changes. -/
theorem BufferWrite.Refused.fixed {w : BufferWrite} {b b' : Buffer} (h : w.Refused b e)
    (heq : b.fixed = b'.fixed) : w.Refused b' e := by
  have hid : b.id = b'.id := (congrArg Buffer.id heq :)
  have hsize : b.size = b'.size := (congrArg Buffer.size heq :)
  cases h with
  | offset h => exact .offset h
  | length h => exact .length h
  | bounds h =>
    rw [hid, hsize]
    exact .bounds (hsize ▸ h)

theorem TextureWrite.Refused.fixed {w : TextureWrite} {t t' : Texture} (h : w.Refused t e)
    (heq : t.fixed = t'.fixed) : w.Refused t' e := by
  have hid : t.id = t'.id := (congrArg Texture.id heq :)
  have hlayers : t.layers = t'.layers := (congrArg Texture.layers heq :)
  have hmips : t.mips = t'.mips := (congrArg Texture.mips heq :)
  cases h with
  | layer h =>
    rw [hid, hlayers]
    exact .layer (hlayers ▸ h)
  | mip h =>
    rw [hid]
    exact .mip (hmips ▸ h)

theorem Texture.TargetRefused.fixed {t t' : Texture} {layer : Nat} (h : t.TargetRefused layer e)
    (heq : t.fixed = t'.fixed) : t'.TargetRefused layer e := by
  have hid : t.id = t'.id := (congrArg Texture.id heq :)
  have hlayers : t.layers = t'.layers := (congrArg Texture.layers heq :)
  have husage : t.usage = t'.usage := (congrArg Texture.usage heq :)
  cases h with
  | usage h =>
    rw [hid]
    exact .usage (husage ▸ h)
  | layer h =>
    rw [hid, hlayers]
    exact .layer (hlayers ▸ h)

namespace Context

/-- There is no reason for recording a pass to fail: what its uniforms name is registered, no texture of
it lacks the image of the frame, its handlers only ask for writes that are not refused, and what it
renders into can be rendered into. -/
structure Ready (c : Context) (t : UniformTable) (reads : List ResourceId)
    (attached : ResourceId → Nat → Prop) : Prop where
  buffers : ∀ id, t.NamesBuffer id → id ∈ c.ids .buffers
  textures : ∀ id, t.NamesTexture id → id ∈ c.ids .textures
  surface : ∀ id texture, (t.NamesTexture id ∨ ∃ layer, attached id layer) →
    c.textures.get? id = some texture → ¬texture.Missing c.device
  bufferWrites : ∀ id b, (t.NamesBuffer id ∨ id ∈ reads) → c.buffers.get? id = some b →
    Handler.AsksOnly (fun w => ∀ e, ¬w.Refused b e) b.handler
  textureWrites : ∀ id texture, t.NamesTexture id → c.textures.get? id = some texture →
    Handler.AsksOnly (fun w => ∀ e, ¬w.Refused texture e) texture.handler
  targets : ∀ id layer texture, attached id layer → c.textures.get? id = some texture →
    ∀ e, ¬texture.TargetRefused layer e

/-- What recording leaves of a context that is ready gives no reason to fail either. -/
theorem Ready.not_fault (hr : c.Ready t reads attached) (hc : Steady c c')
    (hreads : ∀ id ∈ reads, id ∈ c.ids .buffers)
    (hattached : ∀ id layer, attached id layer → id ∈ c.ids .textures) :
    ¬c'.Fault t reads attached e := by
  -- what is there now was there before, with the same fixed part and the same replies
  have hbuffer {id : ResourceId} {b : Buffer} (hid : id ∈ c.ids .buffers)
      (h : c'.buffers.get? id = some b) : ∃ b₀, c.buffers.get? id = some b₀ ∧ b.steady = b₀.steady := by
    obtain ⟨b₀, hb₀⟩ := Store.mem_ids_iff.1 hid
    obtain ⟨b', hb', heq⟩ := hc.buffers id b₀ hb₀
    cases hb'.symm.trans h
    exact ⟨b₀, hb₀, heq⟩
  have htexture {id : ResourceId} {texture : Texture} (hid : id ∈ c.ids .textures)
      (h : c'.textures.get? id = some texture) :
      ∃ t₀, c.textures.get? id = some t₀ ∧ texture.steady = t₀.steady := by
    obtain ⟨t₀, ht₀⟩ := Store.mem_ids_iff.1 hid
    obtain ⟨t', ht', heq⟩ := hc.textures id t₀ ht₀
    cases ht'.symm.trans h
    exact ⟨t₀, ht₀, heq⟩
  intro h
  cases h with
  | unknownBuffer hid h =>
    obtain ⟨b₀, hb₀⟩ := Store.mem_ids_iff.1 (hr.buffers _ hid)
    obtain ⟨b, hb, -⟩ := hc.buffers _ b₀ hb₀
    exact h (Store.mem_ids_iff.2 ⟨b, hb⟩)
  | unknownTexture hid h =>
    obtain ⟨t₀, ht₀⟩ := Store.mem_ids_iff.1 (hr.textures _ hid)
    obtain ⟨texture, htexture, -⟩ := hc.textures _ t₀ ht₀
    exact h (Store.mem_ids_iff.2 ⟨texture, htexture⟩)
  | noSurface hid h hmissing =>
    have hregistered := hid.elim (hr.textures _) fun ⟨layer, hid⟩ => hattached _ layer hid
    obtain ⟨t₀, ht₀, hsteady⟩ := htexture hregistered h
    have hkind := congrArg (fun s => s.1.kind) hsteady
    exact hr.surface _ t₀ hid ht₀ ⟨hkind.symm.trans hmissing.1, hc.surface.symm.trans hmissing.2⟩
  | bufferWrite hid h hasked hrefused =>
    obtain ⟨b₀, hb₀, hsteady⟩ := hbuffer (hid.elim (hr.buffers _) (hreads _)) h
    have hvalid := (hr.bufferWrites _ b₀ hid hb₀).asked (congrArg Prod.snd hsteady) hasked
    exact hvalid _ (hrefused.fixed (congrArg Prod.fst hsteady))
  | textureWrite hid h hasked hrefused =>
    obtain ⟨t₀, ht₀, hsteady⟩ := htexture (hr.textures _ hid) h
    have hvalid := (hr.textureWrites _ t₀ hid ht₀).asked (congrArg Prod.snd hsteady) hasked
    exact hvalid _ (hrefused.fixed (congrArg Prod.fst hsteady))
  | target hid h hrefused =>
    obtain ⟨t₀, ht₀, hsteady⟩ := htexture (hattached _ _ hid) h
    exact hr.targets _ _ t₀ hid ht₀ _ (hrefused.fixed (congrArg Prod.fst hsteady))

end Context

/-- A render pass that is ready is recorded. -/
theorem RenderPass.exists_build {r : RenderPass} (hc₀ : c₀.Reachable) (hs : r.Supplied c₀)
    (hsync : r.sync = .forPass t (r.vertexBuffers ++ r.draw.buffers)) (hsteps : ReflTransGen Step c₀ c)
    (hr : c.Ready t (r.vertexBuffers ++ r.draw.buffers) (r.Attaches c₀)) :
    ∃ c', r.build c = .ok () c' := by
  cases h : r.build c with
  | ok u c' => exact ⟨c', rfl⟩
  | error e c' =>
    have hlasting : Lasting c₀ c := Context.lasting_of_steps hc₀ hsteps
    have hsteady : Context.Steady c c' := Context.steady_of_runs ((r.build_within
      (fun _ _ _ => Refresh.steady) (fun _ _ => Arrange.steady) fun _ _ _ => .log _).of_eq_error h)
    refine absurd (r.build_faults hc₀ hs hsync hsteps h) (hr.not_fault hsteady ?_ ?_)
    · exact fun id hid => hlasting.ids_subset .buffers (hs.buffers id hid)
    · exact fun id layer hid => hlasting.ids_subset .textures (hs.textures id layer hid)

/-- A compute pass that is ready and has no hook is recorded. -/
theorem ComputePass.exists_build {r : ComputePass} (hc₀ : c₀.Reachable) (hs : r.Supplied c₀)
    (hsync : r.sync = .forPass t r.dispatch.buffers) (hhook : r.hook = none)
    (hsteps : ReflTransGen Step c₀ c) (hr : c.Ready t r.dispatch.buffers fun _ _ => False) :
    ∃ c', r.build c = .ok () c' := by
  have hnone (P : Hook → Prop) : ∀ hook, r.hook = some hook → P hook := fun hook hh =>
    nomatch hhook.symm.trans hh
  cases h : r.build c with
  | ok u c' => exact ⟨c', rfl⟩
  | error e c' =>
    have hlasting : Lasting c₀ c := Context.lasting_of_steps hc₀ hsteps
    have hsteady : Context.Steady c c' := Context.steady_of_runs ((r.build_within
      (fun _ _ _ => Refresh.steady) (fun _ _ => Arrange.steady) (fun _ _ _ => .log _)
      (fun _ => .log _) (hnone _)).of_eq_error h)
    obtain hfault | ⟨hook, _, hh, -, -⟩ := r.build_faults hc₀ hs hsync (hnone _) hsteps h
    · refine absurd hfault (hr.not_fault hsteady ?_ fun _ _ hid => hid.elim)
      exact fun id hid => hlasting.ids_subset .buffers (hs id hid)
    · exact nomatch hhook.symm.trans hh

/-- **A compiled pass stays buildable.** Compile a pass and do anything with the context. If recording
the pass then fails, it is for one of the reasons, seen in the context that the failure leaves, or in the
hook of the pass. In particular a pass that is ready and has no hook is recorded.

The textures that a colour attachment resolves into must be registered; those that it renders into are
looked up by compiling. -/
theorem buildable_spec {c c₁ c₂ : Context} (hc : c.Reachable) (hsteps : ReflTransGen Step c₁ c₂) :
    (∀ (d : RenderDesc) (r : RenderPass), d.compile c = .ok r c₁ →
      (∀ id ∈ r.colors, ∀ a target, c₁.colorAttachments.get? id = some a →
        a.resolve = some target → target ∈ c₁.ids .textures) →
      ∃ table, d.uniforms.uniforms = .ok table ∧
        (∀ e c₃, r.build c₂ = .error e c₃ →
          c₃.Fault table (r.vertexBuffers ++ r.draw.buffers) (r.Attaches c₁) e) ∧
        (c₂.Ready table (r.vertexBuffers ++ r.draw.buffers) (r.Attaches c₁) →
          ∃ c₃, r.build c₂ = .ok () c₃)) ∧
    ∀ (d : ComputeDesc) (r : ComputePass), d.compile c = .ok r c₁ →
      (∀ hook, d.hook = some hook → Runs Step hook) →
      ∃ table, d.uniforms.uniforms = .ok table ∧
        (∀ e c₃, r.build c₂ = .error e c₃ →
          c₃.Fault table r.dispatch.buffers (fun _ _ => False) e ∨
            ∃ hook late, d.hook = some hook ∧ ReflTransGen Step c₂ late ∧ hook late = .error e c₃) ∧
        (d.hook = none → c₂.Ready table r.dispatch.buffers (fun _ _ => False) →
          ∃ c₃, r.build c₂ = .ok () c₃) := by
  refine ⟨fun d r h hresolve => ?_, fun d r h hhook => ?_⟩
  · have hc₁ : c₁.Reachable := hc.steps (d.compile_runs.of_eq_ok h)
    have hs : r.Supplied c₁ := d.compile_supplied hc h hresolve
    obtain ⟨plan, c', hp, hf⟩ := bind_eq_ok h
    obtain ⟨hbuffers, -, hdraw, hsync, -⟩ := RenderDesc.finish_eq_ok hf
    rw [← hbuffers, ← hdraw] at hsync
    exact ⟨plan.uniforms, (RenderDesc.prepare_eq_ok hp).1,
      fun e c₃ hbuild => r.build_faults hc₁ hs hsync hsteps hbuild,
      fun hready => r.exists_build hc₁ hs hsync hsteps hready⟩
  · have hc₁ : c₁.Reachable := hc.steps (d.compile_runs.of_eq_ok h)
    have hs : r.Supplied c₁ := d.compile_supplied hc h
    obtain ⟨plan, c', hp, hf⟩ := bind_eq_ok h
    obtain ⟨-, hdispatch, hkept, hsync, -⟩ := ComputeDesc.finish_eq_ok hf
    rw [← hdispatch] at hsync
    rw [← hkept] at hhook ⊢
    exact ⟨plan.uniforms, (ComputeDesc.prepare_eq_ok hp).1,
      fun e c₃ hbuild => r.build_faults hc₁ hs hsync hhook hsteps hbuild,
      fun hnone hready => r.exists_build hc₁ hs hsync hnone hsteps hready⟩

namespace SurfacePass

/-- Creates the shaders, the texture of the surface, and an attachment on it. -/
def setup : Work ResourceError Unit := do
  let _ ← Work.createShader .vertex { code := DepthTarget.code, entryPoint := "corners" }
  let _ ← Work.createShader .fragment { code := DepthTarget.code, entryPoint := "shade" }
  let _ ← Work.createSurfaceTexture none
  let _ ← Work.createColorAttachment
    { texture := ⟨3⟩, options := { clearColor := ⟨⟨0⟩, ⟨0⟩, ⟨0⟩, ⟨0⟩⟩ } }

/-- The context with these resources. -/
def context : Context := after setup (.start {})

theorem reachable : context.Reachable := by
  refine Context.Reachable.runs ⟨.start {}, .refl⟩ ?_
  exact (Work.createShader_runs _ _).bind fun _ => (Work.createShader_runs _ _).bind fun _ =>
    (Work.createSurfaceTexture_runs _).bind fun _ =>
    (Work.createColorAttachment_runs _).bind fun _ => runs_pure ()

/-- A pass that renders into the surface and has no uniforms. -/
def pass : RenderDesc where
  vertexShader := some ⟨1⟩
  fragmentShader := some ⟨2⟩
  draw := .vertices 3 1
  colors := [⟨4⟩]

/-- What the pass names, and what its attachment and the texture of that are. -/
structure Facts where
  colors : List ResourceId
  depth : Option ResourceId
  buffers : List ResourceId
  attachment : Option (ResourceId × Nat × Option ResourceId)
  texture : Option (Bool × Nat)
  available : Bool
  deriving DecidableEq

/-- The facts about a pass in a context. -/
def facts (r : RenderPass) (c : Context) : Facts where
  colors := r.colors
  depth := r.depth
  buffers := r.vertexBuffers ++ r.draw.buffers
  attachment := (c.colorAttachments.get? ⟨4⟩).map fun a => (a.texture, a.layer, a.resolve)
  texture := (c.textures.get? ⟨3⟩).map fun t =>
    (t.usage.contains { renderAttachment := true }, t.layers)
  available := c.device.surface.isSome

/-- Compiles the pass, and yields the facts about it. -/
def compiled : Work CompileError Facts := do
  let r ← pass.compile
  return facts r (← Work.context)

/-- Compiles the pass, loses the image of the frame and records the pass. -/
def lost : Work CompileError Unit := do
  let r ← pass.compile
  modify fun c => { c with device := c.device.loseSurface }
  (r.build : Work ResourceError Unit)

/-- The facts about the compiled pass. -/
def found : Facts where
  colors := [⟨4⟩]
  depth := none
  buffers := []
  attachment := some (⟨3⟩, 0, none)
  texture := some (true, 1)
  available := true

theorem exists_compiled : ∃ r c₁, pass.compile context = .ok r c₁ ∧ facts r c₁ = found := by
  have hout : outcome compiled context = .ok found := by decide +kernel
  obtain ⟨r, c₁, hcompile, h⟩ := bind_eq_ok (eq_ok_of_outcome hout)
  rw [context_bind] at h
  exact ⟨r, c₁, hcompile, (EStateM.Result.ok.inj h).1⟩

theorem build_lost {r : RenderPass} {c₁ : Context} (h : pass.compile context = .ok r c₁) :
    ∃ c', r.build { c₁ with device := c₁.device.loseSurface } = .error .surfaceUnavailable c' := by
  have hout : outcome lost context = .error (.resource .surfaceUnavailable) := by decide +kernel
  have hlost := eq_error_of_outcome hout
  unfold lost at hlost
  rw [bind_of_ok h] at hlost
  replace hlost : (liftM r.build : Work CompileError Unit)
    { c₁ with device := c₁.device.loseSurface } = .error (.resource .surfaceUnavailable) _ := hlost
  rw [lift_apply] at hlost
  cases hbuild : r.build { c₁ with device := c₁.device.loseSurface } with
  | ok u c' =>
    rw [hbuild] at hlost
    cases hlost
  | error e c' =>
    rw [hbuild] at hlost
    injection hlost with he
    cases he
    exact ⟨c', rfl⟩

variable {r : RenderPass} {c₁ : Context} (hfacts : facts r c₁ = found)
include hfacts

theorem attachment_eq {id : ResourceId} {a : ColorAttachment} (hid : id ∈ r.colors)
    (ha : c₁.colorAttachments.get? id = some a) :
    a.texture = ⟨3⟩ ∧ a.layer = 0 ∧ a.resolve = none := by
  have hcolors : r.colors = [⟨4⟩] := congrArg Facts.colors hfacts
  have hattachment : (c₁.colorAttachments.get? ⟨4⟩).map (fun a => (a.texture, a.layer, a.resolve)) =
      some (⟨3⟩, 0, none) := congrArg Facts.attachment hfacts
  rw [hcolors, List.mem_singleton] at hid
  subst hid
  rw [ha] at hattachment
  simpa using hattachment

theorem attaches_eq {id : ResourceId} {layer : Nat} (h : r.Attaches c₁ id layer) :
    id = ⟨3⟩ ∧ layer = 0 := by
  cases h with
  | color hid ha =>
    obtain ⟨htexture, hlayer, -⟩ := attachment_eq hfacts hid ha
    exact ⟨htexture, hlayer⟩
  | resolve hid ha hr =>
    obtain ⟨-, -, hnone⟩ := attachment_eq hfacts hid ha
    exact nomatch hnone.symm.trans hr
  | depth hid =>
    have hdepth : r.depth = none := congrArg Facts.depth hfacts
    exact nomatch hdepth.symm.trans hid

/-- Once the pass is compiled there is no reason for recording it to fail. -/
theorem ready {table : UniformTable} (htable : pass.uniforms.uniforms = .ok table) :
    c₁.Ready table (r.vertexBuffers ++ r.draw.buffers) (r.Attaches c₁) := by
  have hbuffers : r.vertexBuffers ++ r.draw.buffers = [] := congrArg Facts.buffers hfacts
  have htexture : (c₁.textures.get? ⟨3⟩).map (fun t =>
      (t.usage.contains { renderAttachment := true }, t.layers)) = some (true, 1) :=
    congrArg Facts.texture hfacts
  have hsurface : c₁.device.surface.isSome := congrArg Facts.available hfacts
  obtain rfl : ⟨.empty⟩ = table := Except.ok.inj htable
  have hnames : ∀ id role, ¬(⟨.empty⟩ : UniformTable).Names id role := by
    rintro id role ⟨name, a, ha, -⟩
    cases ha
  refine ⟨fun id ⟨role, hname, _⟩ => absurd hname (hnames id role),
    fun id ⟨role, hname, _⟩ => absurd hname (hnames id role),
    fun id texture _ _ ⟨_, hnone⟩ => Option.isSome_iff_ne_none.1 hsurface hnone,
    fun id b hid => ?_, fun id texture ⟨role, hname, _⟩ => absurd hname (hnames id role),
    fun id layer texture hid ht e hrefused => ?_⟩
  · rw [hbuffers] at hid
    obtain ⟨role, hname, -⟩ | hid := hid
    · exact absurd hname (hnames id role)
    · cases hid
  · obtain ⟨rfl, rfl⟩ := attaches_eq hfacts hid
    rw [ht] at htexture
    obtain ⟨husage, hlayers⟩ : texture.usage.contains { renderAttachment := true } = true ∧
      texture.layers = 1 := by simpa using htexture
    cases hrefused with
    | usage h => exact nomatch husage.symm.trans h
    | layer h => exact absurd (hlayers ▸ h) (by decide)

end SurfacePass

/-- A pass on the surface is recorded, and not while the image of the frame is lost. -/
theorem buildable_surface : ∃ r c₁ c₂ c₃ table,
    SurfacePass.pass.compile SurfacePass.context = .ok r c₁ ∧ r.build c₁ = .ok () c₂ ∧
    r.build { c₁ with device := c₁.device.loseSurface } = .error .surfaceUnavailable c₃ ∧
    c₃.Fault table (r.vertexBuffers ++ r.draw.buffers) (r.Attaches c₁) .surfaceUnavailable := by
  obtain ⟨r, c₁, hcompile, hfacts⟩ := SurfacePass.exists_compiled
  obtain ⟨c₃, hlost⟩ := SurfacePass.build_lost hcompile
  have hresolve : ∀ id ∈ r.colors, ∀ a target, c₁.colorAttachments.get? id = some a →
      a.resolve = some target → target ∈ c₁.ids .textures := by
    intro id hid a target ha hr
    obtain ⟨-, -, hnone⟩ := SurfacePass.attachment_eq hfacts hid ha
    exact nomatch hnone.symm.trans hr
  obtain ⟨table, htable, -, hready⟩ :=
    (buildable_spec SurfacePass.reachable ReflTransGen.refl).1 SurfacePass.pass r hcompile hresolve
  obtain ⟨table', htable', hfaults, -⟩ :=
    (buildable_spec SurfacePass.reachable (ReflTransGen.single .loseSurface)).1 SurfacePass.pass r
      hcompile hresolve
  cases htable.symm.trans htable'
  obtain ⟨c₂, hbuild⟩ := hready (SurfacePass.ready hfacts htable)
  exact ⟨r, c₁, c₂, c₃, table, hcompile, hbuild, hlost, hfaults _ _ hlost⟩

end PassForge
