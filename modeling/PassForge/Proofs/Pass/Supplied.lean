import PassForge.Proofs.Pass.Compatible

/-!
# What a compiled pass finds

Compiling a pass looks up every buffer that it reads and every attachment that it renders into, with
its texture. All of these are registered from then on, whatever happens to the context. Only what the
uniforms name is not covered: a property that no shader uses is never looked up.

* `RenderPass.Attaches` says which layers of which textures a pass renders into.
* `RenderPass.Supplied`, `ComputePass.Supplied`: what is registered once a pass is compiled.
  `RenderDesc.compile_supplied` and `ComputeDesc.compile_supplied` say that it is, and it lasts.
-/

namespace PassForge

open Context (Lasting Step)
open Relation (ReflTransGen)

variable {c c' : Context} {buffers : Store Buffer} {id : ResourceId}

/-! ## Checked buffers -/

theorem Draw.checkIndex_registered (h : checkIndex buffers id = .ok ()) : id ∈ buffers.ids := by
  obtain ⟨b, hb, -⟩ := bind_eq_ok_iff.1 h
  exact Store.mem_ids_iff.2 ⟨b, Store.require_eq_ok_iff.1 hb⟩

theorem Draw.checkArguments_registered {kind : BufferKind} {count : Nat}
    (h : checkArguments buffers kind id count = .ok ()) : id ∈ buffers.ids := by
  obtain ⟨b, hb, -⟩ := bind_eq_ok_iff.1 h
  exact Store.mem_ids_iff.2 ⟨b, Store.require_eq_ok_iff.1 hb⟩

/-- Every buffer that a checked draw reads is registered. -/
theorem Draw.check_registered {d : Draw} (h : d.check buffers = .ok ()) :
    ∀ id ∈ d.buffers, id ∈ buffers.ids := by
  obtain ⟨hindex, harguments⟩ := check_eq_ok_iff.1 h
  intro id hid
  obtain hid | hid := List.mem_append.1 hid
  · exact checkIndex_registered (hindex id (Option.mem_toList.1 hid))
  · obtain ⟨p, hp, rfl⟩ := Option.map_eq_some_iff.1 (Option.mem_toList.1 hid)
    exact checkArguments_registered (harguments p hp)

/-- Every buffer that a checked dispatch reads is registered. -/
theorem Dispatch.check_registered {d : Dispatch} {limits : Limits}
    (h : d.check buffers limits = .ok ()) : ∀ id ∈ d.buffers, id ∈ buffers.ids := by
  intro id hid
  cases d with
  | workgroups => cases hid
  | indirect arguments offset =>
    obtain rfl := List.mem_singleton.1 hid
    obtain ⟨b, hb, -⟩ := bind_eq_ok_iff.1 h
    exact Store.mem_ids_iff.2 ⟨b, Store.require_eq_ok_iff.1 hb⟩

/-- Every vertex buffer of a pipeline is registered. -/
theorem vertexState_registered {inputs : List VertexInput} {t : AttributeTable} {v : VertexState}
    (h : vertexState inputs t buffers = .ok v) : ∀ id ∈ v.buffers, id ∈ buffers.ids := by
  obtain ⟨feeds, -, h⟩ := bind_eq_ok_iff.1 h
  obtain ⟨found, hfound, h⟩ := bind_eq_ok_iff.1 h
  cases h
  intro id hid
  obtain ⟨b, hb⟩ := exists_mapM_eq_ok_iff.1 ⟨found, hfound⟩ id hid
  exact Store.mem_ids_iff.2 ⟨b, Store.require_eq_ok_iff.1 hb⟩

/-! ## Passes -/

/-- A pass renders into a layer of a texture: for a colour attachment, to resolve the samples of one,
or for its depth-stencil attachment. -/
inductive RenderPass.Attaches (r : RenderPass) (c : Context) : ResourceId → Nat → Prop
  | color {id : ResourceId} {a : ColorAttachment} (hid : id ∈ r.colors)
      (ha : c.colorAttachments.get? id = some a) : Attaches r c a.texture a.layer
  | resolve {id target : ResourceId} {a : ColorAttachment} (hid : id ∈ r.colors)
      (ha : c.colorAttachments.get? id = some a) (hr : a.resolve = some target) :
      Attaches r c target 0
  | depth {id : ResourceId} {a : DepthAttachment} (hid : r.depth = some id)
      (ha : c.depthAttachments.get? id = some a) : Attaches r c a.texture 0

/-- What a render pass reads besides its uniforms, and what it renders into, is registered. -/
structure RenderPass.Supplied (r : RenderPass) (c : Context) : Prop where
  buffers : ∀ id ∈ r.vertexBuffers ++ r.draw.buffers, id ∈ c.ids .buffers
  colors : ∀ id ∈ r.colors, id ∈ c.ids .colorAttachments
  depth : ∀ id, r.depth = some id → id ∈ c.ids .depthAttachments
  textures : ∀ id layer, r.Attaches c id layer → id ∈ c.ids .textures

/-- What a compute pass reads besides its uniforms is registered. -/
def ComputePass.Supplied (r : ComputePass) (c : Context) : Prop :=
  ∀ id ∈ r.dispatch.buffers, id ∈ c.ids .buffers

/-- Compiling finds all that a pass reads besides its uniforms and all that it renders into, if the
textures that its colour attachments resolve into are registered. -/
theorem RenderDesc.compile_supplied {d : RenderDesc} {r : RenderPass} (hc : c.Reachable)
    (h : d.compile c = .ok r c') (hresolve : ∀ id ∈ r.colors, ∀ a target,
      c'.colorAttachments.get? id = some a → a.resolve = some target → target ∈ c'.ids .textures) :
    r.Supplied c' := by
  obtain ⟨pipeline, _, _, _, -, -, -, htargets, hstate⟩ := d.compile_suits hc h
  obtain ⟨p, c₁, vertex, fragment, c₀, hp, hf, hchecked, hlasting⟩ := d.compile_checked hc h
  obtain ⟨hvertices, -, hdraw, -, -⟩ := finish_eq_ok hf
  obtain ⟨attributes, -, hstates⟩ := hchecked.vertices
  have hbuffers : c₀.ids .buffers ⊆ c'.ids .buffers := hlasting.ids_subset .buffers
  have hcolors : ∀ id ∈ r.colors, ∃ a t, c'.colorAttachments.get? id = some a ∧
      c'.textures.get? a.texture = some t := by
    refine fun id hid => ?_
    obtain ⟨i, hi, rfl⟩ := List.getElem_of_mem hid
    exact (htargets.get hi (htargets.length_eq ▸ hi)).attached
  have hdepth : ∀ id, r.depth = some id → ∃ a t, c'.depthAttachments.get? id = some a ∧
      c'.textures.get? a.texture = some t := by
    intro id hid
    rw [hid] at hstate
    generalize pipeline.depthStencil = state at hstate
    cases hstate with
    | some hsuits => exact hsuits.attached
  refine ⟨fun id hid => ?_, fun id hid => ?_, fun id hid => ?_, fun id layer hattaches => ?_⟩
  · rw [hvertices, hdraw] at hid
    obtain hid | hid := List.mem_append.1 hid
    · exact hbuffers (vertexState_registered hstates id hid)
    · exact hbuffers (Draw.check_registered hchecked.draw id hid)
  · obtain ⟨a, t, ha, -⟩ := hcolors id hid
    exact Store.mem_ids_iff.2 ⟨a, ha⟩
  · obtain ⟨a, t, ha, -⟩ := hdepth id hid
    exact Store.mem_ids_iff.2 ⟨a, ha⟩
  · cases hattaches with
    | color hid ha =>
      obtain ⟨a, t, ha', ht⟩ := hcolors _ hid
      cases ha.symm.trans ha'
      exact Store.mem_ids_iff.2 ⟨t, ht⟩
    | resolve hid ha hr => exact hresolve _ hid _ _ ha hr
    | depth hid ha =>
      obtain ⟨a, t, ha', ht⟩ := hdepth _ hid
      cases ha.symm.trans ha'
      exact Store.mem_ids_iff.2 ⟨t, ht⟩

/-- Compiling finds all that a pass reads besides its uniforms. -/
theorem ComputeDesc.compile_supplied {d : ComputeDesc} {r : ComputePass} (hc : c.Reachable)
    (h : d.compile c = .ok r c') : r.Supplied c' := by
  obtain ⟨p, c₁, c₀, hp, hf, hcheck, hsince⟩ := d.compile_checked hc h
  obtain ⟨-, hdispatch, -, -, -⟩ := finish_eq_ok hf
  intro id hid
  rw [hdispatch] at hid
  exact hsince.ids_subset .buffers (Dispatch.check_registered hcheck id hid)

end PassForge
