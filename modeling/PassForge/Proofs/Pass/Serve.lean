import Mathlib
import PassForge.Proofs.Pass.Failure

/-!
# Compiled passes serve their bindings

* `RenderDesc.compile_serve`, `ComputeDesc.compile_serve`: the bind groups of a compiled pass serve the
  layouts that were made for its stages, in the context that compiling leaves.
* `bindings_spec` is the whole statement, with the errors that are never returned.
* `Bag.OfResources.ofList`: assignments of registered resources make such a bag.
-/

namespace PassForge

open Context (Touch Retains)
open Relation (ReflTransGen)

variable {c c' : Context}

/-! ## Bags of resources -/

theorem Bag.OfResources.assign {bag : Bag} {name : String} {a : Assignment}
    (h : bag.OfResources c) (ha : c.Assigns a) : (bag.assign name a).OfResources c := by
  intro name' a' h'
  unfold Bag.assign at h'
  rw [SortedMap.get?_insert] at h'
  split at h'
  · cases h'
    exact ha
  · exact h name' a' h'

/-- Assignments of registered resources make a bag of resources. -/
theorem Bag.OfResources.ofList {l : List (String × Assignment)} (h : ∀ p ∈ l, c.Assigns p.2) :
    (Bag.ofList l).OfResources c := by
  have hfold (bag : Bag) (hbag : bag.OfResources c) :
      Bag.OfResources (l.foldl (fun m e => m.insert e.1 e.2) bag) c := by
    induction l generalizing bag with
    | nil => exact hbag
    | cons p l ih =>
      have ⟨hp, hl⟩ := List.forall_mem_cons.1 h
      exact ih hl _ (hbag.assign hp)
  exact hfold .empty fun _ _ h => nomatch h

/-! ## Compiling -/

/-- The bind groups of a compiled render pass serve the layouts of its two stages. -/
theorem RenderDesc.compile_serve {d : RenderDesc} {r : RenderPass} (hc : c.Sound)
    (hbag : d.uniforms.OfResources c) (h : d.compile c = .ok r c') :
    ∃ vertex fragment table layouts layout, d.uniforms.uniforms = .ok table ∧
      BindingsServe c' d.label [vertex, fragment] table layouts layout r.bindGroups := by
  obtain ⟨-, -, vertex, fragment, table, layouts, layout, c₀, c₁, -, -, -, -, htable, ht, hbinds,
    hretains⟩ := compile_binds hc h
  have hbag₀ : table.assignments.OfResources c₀ := by
    rw [Bag.eq_of_uniforms htable]
    exact hbag.later (Context.retains_of_touches ht)
  have hserve := hbinds.serve (Context.sound_of_touches ht hc) hbag₀
  exact ⟨vertex, fragment, table, layouts, layout, htable, hserve.later hretains⟩

/-- The bind groups of a compiled compute pass serve the layouts of its stage. -/
theorem ComputeDesc.compile_serve {d : ComputeDesc} {r : ComputePass} (hc : c.Sound)
    (hbag : d.uniforms.OfResources c) (h : d.compile c = .ok r c') :
    ∃ i table layouts layout, d.uniforms.uniforms = .ok table ∧
      BindingsServe c' d.label [i] table layouts layout r.bindGroups := by
  obtain ⟨-, i, table, layouts, layout, c₀, c₁, -, -, htable, ht, hbinds, hretains⟩ :=
    compile_binds hc h
  have hbag₀ : table.assignments.OfResources c₀ := by
    rw [Bag.eq_of_uniforms htable]
    exact hbag.later (Context.retains_of_touches ht)
  have hserve := hbinds.serve (Context.sound_of_touches ht hc) hbag₀
  exact ⟨i, table, layouts, layout, htable, hserve.later hretains⟩

/-- **The bind groups that are made for a bag of registered resources serve the layouts that are made
for it**, for any list of stages and in particular for those of a compiled pass. Whatever the bag,
neither pass over the bindings finds entries that do not match or a uniform that has no layout type. -/
theorem bindings_spec (hc : c.Reachable) :
    (∀ (label : Option String) (stages : List ShaderInterface) (bag : Bag) (table : UniformTable)
        (layouts : List GroupLayout) (layout : Nat) (groups : List Nat) (c' : Context),
      bag.OfResources c → bag.uniforms = .ok table →
      BindsUniforms label stages table layouts layout groups c c' →
      BindingsServe c' label stages table layouts layout groups) ∧
    (∀ (d : RenderDesc) (r : RenderPass) (c' : Context), d.uniforms.OfResources c →
      d.compile c = .ok r c' →
      ∃ vertex fragment table layouts layout, d.uniforms.uniforms = .ok table ∧
        BindingsServe c' d.label [vertex, fragment] table layouts layout r.bindGroups) ∧
    (∀ (d : ComputeDesc) (r : ComputePass) (c' : Context), d.uniforms.OfResources c →
      d.compile c = .ok r c' →
      ∃ i table layouts layout, d.uniforms.uniforms = .ok table ∧
        BindingsServe c' d.label [i] table layouts layout r.bindGroups) ∧
    (∀ (stages : List ShaderInterface) (table : UniformTable) (e : CompileError) (c' : Context),
      makeLayouts stages table c = .error e c' → e.Regular) ∧
    (∀ (stages : List ShaderInterface) (table : UniformTable) (layouts : List GroupLayout)
        (e : CompileError) (c₁ c₂ c' : Context), makeLayouts stages table c = .ok layouts c₁ →
      makeBindGroups table layouts c₂ = .error e c' → e.Regular) ∧
    (∀ (d : RenderDesc) (e : CompileError) (c' : Context), d.compile c = .error e c' →
      (∀ group expected actual, e ≠ .bindGroupEntryMismatch group expected actual) ∧
        ∀ name role, e = .unsupportedUniform name role → d.uniforms.uniforms = .error e) ∧
    ∀ (d : ComputeDesc) (e : CompileError) (c' : Context), d.compile c = .error e c' →
      (∀ group expected actual, e ≠ .bindGroupEntryMismatch group expected actual) ∧
        ∀ name role, e = .unsupportedUniform name role → d.uniforms.uniforms = .error e := by
  refine ⟨?_, fun d r c' hbag h => d.compile_serve hc.sound hbag h,
    fun d r c' hbag h => d.compile_serve hc.sound hbag h,
    fun stages table e c' h => makeLayouts_regular stages c e c' h,
    fun stages table layouts e c₁ c₂ c' h h' => makeBindGroups_regular h c₂ e c' h',
    fun d e c' h => d.compile_regular h, fun d e c' h => d.compile_regular h⟩
  intro label stages bag table layouts layout groups c' hbag htable h
  exact h.serve hc.sound (Bag.eq_of_uniforms htable ▸ hbag)

namespace TwoGroups

/-- A compute shader that uses a texture and a uniform buffer in one group and a storage buffer in
another. -/
def code : ShaderModule where
  globals := [
    { name := "scale", space := .uniform, type := .scalar ⟨.float, 4⟩, slot := some ⟨0, 2⟩ },
    { name := "image", space := .handle, type := .image .d2 (.sampled .float false),
      slot := some ⟨0, 1⟩ },
    { name := "cells", space := .storage true, type := .array (.scalar ⟨.uint, 4⟩) none,
      slot := some ⟨1, 0⟩ }]
  entryPoints := [
    { name := "main", stage := .pipeline .compute, uses := ["scale", "image", "cells"] }]

/-- Creates the buffers, the texture of the surface and the shader. -/
def setup : Work ResourceError Unit := do
  let _ ← Work.createBuffer .uniform { size := 16 }
  let _ ← Work.createSurfaceTexture none
  let _ ← Work.createBuffer .storage { size := 64 }
  let _ ← Work.createShader .compute { code := code, entryPoint := "main" }

/-- The context with these resources. -/
def context : Context := after setup (.start {})

theorem reachable : context.Reachable := by
  refine Context.Reachable.runs ⟨.start {}, .refl⟩ ?_
  exact (Work.createBuffer_runs _ _).bind fun _ => (Work.createSurfaceTexture_runs _).bind fun _ =>
    (Work.createBuffer_runs _ _).bind fun _ => (Work.createShader_runs _ _).bind fun _ =>
    runs_pure ()

/-- A pass that binds all of them. -/
def pass : ComputeDesc where
  shader := some ⟨4⟩
  uniforms := .ofList [("scale", ⟨⟨1⟩, .uniformBuffer⟩), ("image", ⟨⟨2⟩, .textureSurface⟩),
    ("cells", ⟨⟨3⟩, .storageBuffer⟩)]
  dispatch := .workgroups 1 1 1

/-- The view of the surface that is bound. -/
def view : View where
  serial := 6
  texture := 1
  dimension := some .d2
  aspect := .all
  baseMip := 0
  mips := some 1
  baseLayer := 0
  layers := some 1

theorem assigns_buffer {id : ResourceId} {a : Assignment}
    (h : (context.buffers.get? id).map Buffer.assignment = some a) : context.Assigns a := by
  obtain ⟨b, hb, rfl⟩ := Option.map_eq_some_iff.1 h
  exact .buffer hb

theorem ofResources : pass.uniforms.OfResources context := by
  refine Bag.OfResources.ofList (List.forall_mem_cons.2 ⟨?_, List.forall_mem_cons.2 ⟨?_,
    List.forall_mem_singleton.2 ?_⟩⟩)
  · exact @assigns_buffer ⟨1⟩ _ (by cbv)
  · have himage : (context.textures.get? ⟨2⟩).map Texture.assignment =
        some ⟨⟨2⟩, .textureSurface⟩ := by cbv
    obtain ⟨t, ht, heq⟩ := Option.map_eq_some_iff.1 himage
    exact heq ▸ .texture ht
  · exact @assigns_buffer ⟨3⟩ _ (by cbv)

end TwoGroups

/-- A pass with two groups compiles, and its two bind groups serve its layouts. In the first of them,
the view of the surface is of its one mip and its one layer. -/
theorem bindings_twoGroups : ∃ r c', TwoGroups.pass.compile TwoGroups.context = .ok r c' ∧
    r.bindGroups = [8, 10] ∧
    .bindGroupCreated 8 "bind group 0" 3
      [⟨1, .view TwoGroups.view⟩, ⟨2, .buffer 7 0 none⟩] ∈ c'.device.trace ∧
    ∃ i table layouts layout, TwoGroups.pass.uniforms.uniforms = .ok table ∧
      BindingsServe c' none [i] table layouts layout r.bindGroups := by
  have hout : (outcome TwoGroups.pass.compile TwoGroups.context).map ComputePass.bindGroups =
      .ok [8, 10] := by cbv
  have hgroup : (after TwoGroups.pass.compile TwoGroups.context).device.trace[5]? =
      some (.bindGroupCreated 8 "bind group 0" 3
        [⟨1, .view TwoGroups.view⟩, ⟨2, .buffer 7 0 none⟩]) := by cbv
  cases h : TwoGroups.pass.compile TwoGroups.context with
  | error e c' =>
    rw [outcome_error h] at hout
    cases hout
  | ok r c' =>
    rw [outcome_ok h] at hout
    rw [after_ok h] at hgroup
    exact ⟨r, c', rfl, Except.ok.inj hout, List.mem_of_getElem? hgroup,
      (bindings_spec TwoGroups.reachable).2.2.1 TwoGroups.pass r c' TwoGroups.ofResources h⟩

end PassForge
