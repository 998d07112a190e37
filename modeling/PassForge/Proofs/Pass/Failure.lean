import PassForge.Pass.Compute
import PassForge.Pass.Render
import PassForge.Proofs.Checks
import PassForge.Proofs.Failure
import PassForge.Proofs.Pass.Bindings

/-!
# Errors that compiling never returns

A bind group always has as many entries as its layout, and whatever stands behind a binding has a
layout type. So the two errors that would say otherwise are never returned; what is left of the second
is the check that a bag holds nothing that cannot be bound.

* `CompileError.Regular`: an error is neither of the two. `CompileError.Lookup`: nor about addresses.
* `makeLayouts_regular`, `makeBindGroups_regular`: neither pass over the bindings returns them.
* `RenderDesc.compile_regular`, `ComputeDesc.compile_regular`: nor does compiling, but for the error of
  that check.
-/

namespace PassForge

variable {table : UniformTable} {c c' : Context}

/-- An error that is neither a mismatch of entries nor about a uniform that cannot be bound. -/
def CompileError.Regular : CompileError → Prop
  | bindGroupEntryMismatch .. | unsupportedUniform .. => False
  | _ => True

/-- A check whose errors are regular. -/
abbrev Regular {α : Type} (r : Except CompileError α) : Prop := FailsOnly CompileError.Regular r

/-- Work whose errors are regular. -/
abbrev ThrowsRegular {α : Type} (w : Work CompileError α) : Prop :=
  ThrowsOnly CompileError.Regular w

/-! ## Checks -/

/-- A regular error that is not about addresses. -/
def CompileError.Lookup (e : CompileError) : Prop := e.Regular ∧ e ≠ .addressOverflow

theorem require_lookup {τ : Type} {s : Store τ} {id : ResourceId} :
    FailsOnly CompileError.Lookup (s.require id) := by
  unfold Store.require
  cases s.find id with
  | ok a => exact failsOnly_ok a
  | error e => exact failsOnly_error ⟨trivial, nofun⟩

theorem require_regular {τ : Type} {s : Store τ} {id : ResourceId} : Regular (s.require id) :=
  fun e h => (require_lookup e h).1

theorem attributes_regular (bag : Bag) : Regular bag.attributes := by
  unfold Bag.attributes
  split
  · exact failsOnly_error trivial
  · exact failsOnly_ok _

theorem addUse_regular (stage : Stage) (b : ShaderBinding) (ms : List MergedBinding) :
    Regular (addUse stage b ms) := by
  induction ms with
  | nil => exact failsOnly_ok _
  | cons m rest ih =>
    have hjoin : Regular (m.join stage b) :=
      .ite (fun _ => failsOnly_ok _) fun _ => failsOnly_error trivial
    exact .ite (fun _ => hjoin.bind fun _ _ => failsOnly_ok _) fun _ =>
      ih.bind fun _ _ => failsOnly_ok _

theorem mergeGroup_regular (stages : List ShaderInterface) (group : Nat) :
    Regular (mergeGroup stages group) := by
  have huse (ms : List MergedBinding) (u : Stage × ShaderBinding) : Regular (addUse u.1 u.2 ms) :=
    addUse_regular u.1 u.2 ms
  refine (FailsOnly.foldlM huse _ _).bind fun merged _ => ?_
  dsimp only
  split
  · exact failsOnly_error trivial
  · exact failsOnly_ok _

theorem checkGroups_regular (limit : Nat) (i : ShaderInterface) : Regular (checkGroups limit i) := by
  refine .ite (fun _ => failsOnly_error trivial) fun _ => ?_
  split
  · exact failsOnly_error trivial
  · exact failsOnly_ok ()

theorem merge_regular (stages : List ShaderInterface) (limit : Nat) :
    Regular (merge stages limit) :=
  (FailsOnly.forM (checkGroups_regular limit) stages).bind fun _ _ =>
    .mapM (mergeGroup_regular stages) _

theorem resolve_lookup (group : Nat) (b : MergedBinding) :
    FailsOnly CompileError.Lookup (resolve c table group b) := by
  unfold resolve
  cases table.assignment? b.name with
  | none => exact failsOnly_error ⟨trivial, nofun⟩
  | some a =>
    cases b.kind with
    | uniformBuffer =>
      exact .ite (fun _ => require_lookup.map _) fun _ => failsOnly_error ⟨trivial, nofun⟩
    | storageBuffer =>
      exact .ite (fun _ => require_lookup.bind fun _ _ =>
        .check ⟨trivial, nofun⟩ (failsOnly_ok _)) fun _ => failsOnly_error ⟨trivial, nofun⟩
    | texture | storageTexture =>
      exact .ite (fun _ => require_lookup.map _) fun _ => failsOnly_error ⟨trivial, nofun⟩
    | sampler =>
      exact .ite (fun _ => require_lookup.bind fun _ _ =>
        .check ⟨trivial, nofun⟩ (failsOnly_ok _)) fun _ => failsOnly_error ⟨trivial, nofun⟩

theorem resolve_regular (group : Nat) (b : MergedBinding) : Regular (resolve c table group b) :=
  fun e h => (resolve_lookup group b e h).1

/-- **Whatever stands behind a binding has a layout type.** -/
theorem layoutEntry_regular (group : Nat) (b : MergedBinding) :
    Regular (layoutEntry c table group b) := by
  refine (resolve_regular group b).bind fun r hr => ?_
  obtain ⟨a, -, hres⟩ := resolve_eq_ok hr
  obtain ⟨type, htype⟩ := hres.exists_type
  rw [htype]
  exact failsOnly_ok _

theorem cut_regular (limits : Limits) (buffer : Buffer) (b : MergedBinding) (cuts : Cuts) :
    Regular (cut limits buffer b cuts) :=
  .ite (fun _ => failsOnly_error trivial) fun _ =>
    .ite (fun _ => failsOnly_error trivial) fun _ => failsOnly_ok _

theorem Draw.check_regular (d : Draw) (buffers : Store Buffer) : Regular (d.check buffers) := by
  have hindex (id : ResourceId) : Regular (checkIndex buffers id) :=
    require_regular.bind fun _ _ => .ite (fun _ => failsOnly_error trivial) fun _ => failsOnly_ok _
  have harguments (kind : BufferKind) (id : ResourceId) (count : Nat) :
      Regular (checkArguments buffers kind id count) :=
    require_regular.bind fun _ _ => .check trivial
      (.ite (fun _ => failsOnly_error trivial) fun _ => failsOnly_ok _)
  unfold check
  cases d.index? with
  | none =>
    cases d.arguments? with
    | none => exact failsOnly_ok _
    | some p => exact harguments _ p.1 p.2
  | some id =>
    refine (hindex id).bind fun _ _ => ?_
    cases d.arguments? with
    | none => exact failsOnly_ok _
    | some p => exact harguments _ p.1 p.2

theorem Dispatch.check_regular (d : Dispatch) (buffers : Store Buffer) (limits : Limits) :
    Regular (d.check buffers limits) := by
  cases d with
  | workgroups => exact .ite (fun _ => failsOnly_error trivial) fun _ => failsOnly_ok _
  | indirect id offset =>
    exact require_regular.bind fun _ _ => .check trivial (.check trivial (.check trivial
      (.ite (fun _ => failsOnly_error trivial) fun _ => failsOnly_ok _)))

theorem colorTargets_regular (samples : SampleCount) (attachments : List ResourceId) :
    Regular (colorTargets c samples attachments) := by
  have htarget (index : Nat) (id : ResourceId) : Regular (colorTarget c samples index id) :=
    require_regular.bind fun _ _ => require_regular.bind fun _ _ =>
      .check trivial (failsOnly_ok _)
  exact .mapM (fun (p : ResourceId × Nat) => htarget p.2 p.1) _

theorem checkOutputs_regular (i : ShaderInterface) (targets : List ColorTarget) :
    Regular (checkOutputs i targets) := by
  unfold checkOutputs
  split
  · exact failsOnly_error trivial
  · exact failsOnly_ok ()

theorem depthState_regular (samples : SampleCount) (attachment : Option ResourceId) :
    Regular (depthState c samples attachment) := by
  cases attachment with
  | none => exact failsOnly_ok none
  | some id =>
    exact require_regular.bind fun _ _ => require_regular.bind fun _ _ =>
      .check trivial (failsOnly_ok _)

theorem vertexState_regular (inputs : List VertexInput) (t : AttributeTable)
    (buffers : Store Buffer) : Regular (vertexState inputs t buffers) := by
  have hfeed (i : VertexInput) : Regular (t.feed i) := by
    unfold AttributeTable.feed
    split
    · exact failsOnly_error trivial
    · split
      · exact failsOnly_error trivial
      · exact failsOnly_ok _
  exact (FailsOnly.mapM hfeed inputs).bind fun _ _ =>
    (FailsOnly.mapM (fun _ => require_regular) _).bind fun _ _ => failsOnly_ok _

/-! ## Passes over the bindings -/

theorem throwsRegular_lift {α : Type} (w : Work ResourceError α) :
    ThrowsRegular (liftM w : Work CompileError α) := by
  intro c e c' h
  rw [lift_apply] at h
  split at h
  · cases h
  · cases h
    trivial

theorem makeLayout_regular (g : MergedGroup) : ThrowsRegular (makeLayout table g) :=
  throwsOnly_context.bind fun _ _ _ _ =>
    (throwsOnly_liftExcept (.mapM (layoutEntry_regular g.index) _)).bind fun _ _ _ _ =>
    (throwsOnly_call _).bind fun _ _ _ _ => throwsOnly_pure _

theorem makeLayouts_regular (stages : List ShaderInterface) :
    ThrowsRegular (makeLayouts stages table) :=
  throwsOnly_context.bind fun _ _ _ _ =>
    (throwsOnly_liftExcept (merge_regular stages _)).bind fun _ _ _ _ =>
    .mapM fun g _ => makeLayout_regular g

theorem bindBuffer_regular (g : MergedGroup) (b : MergedBinding) (buffer : Buffer) (cuts : Cuts) :
    ThrowsRegular (bindBuffer table g b buffer cuts) := by
  refine (throwsRegular_lift _).bind fun _ _ _ _ => ?_
  split
  · exact throwsOnly_pure _
  · exact throwsOnly_context.bind fun _ _ _ _ =>
      (throwsOnly_liftExcept (cut_regular _ _ _ _)).bind fun _ _ _ _ => throwsOnly_pure _

theorem bindTexture_regular (b : MergedBinding) (t : Texture) : ThrowsRegular (bindTexture b t) := by
  rw [bindTexture_eq]
  exact (throwsRegular_lift _).bind fun _ _ _ _ => throwsOnly_pure _

theorem bindResource_regular (g : MergedGroup) (b : MergedBinding) (cuts : Cuts) :
    ThrowsRegular (bindResource table g b cuts) := by
  refine throwsOnly_context.bind fun _ _ _ _ =>
    (throwsOnly_liftExcept (resolve_regular g.index b)).bind fun _ r _ _ => ?_
  cases r with
  | buffer buffer => exact bindBuffer_regular g b buffer cuts
  | texture t => exact (bindTexture_regular b t).bind fun _ _ _ _ => throwsOnly_pure _
  | sampler s => exact (throwsRegular_lift _).bind fun _ _ _ _ => throwsOnly_pure _

theorem bindAll_regular (g : MergedGroup) (bs : List MergedBinding) (cuts : Cuts) :
    ThrowsRegular (bindAll table g bs cuts) := by
  induction bs generalizing cuts with
  | nil => exact throwsOnly_pure []
  | cons b bs ih =>
    exact (bindResource_regular g b cuts).bind fun _ r _ _ => (ih r.2).bind fun _ _ _ _ =>
      throwsOnly_pure _

/-- There is one entry for each binding. -/
theorem length_of_bindAll {g : MergedGroup} {bs : List MergedBinding} {cuts : Cuts}
    {entries : List GroupEntry} (h : bindAll table g bs cuts c = .ok entries c') :
    entries.length = bs.length := by
  induction bs generalizing c cuts entries with
  | nil =>
    cases h
    rfl
  | cons b bs ih =>
    obtain ⟨r, c₁, -, h₁⟩ := bind_eq_ok h
    obtain ⟨rest, c₂, hrest, h₂⟩ := bind_eq_ok h₁
    cases h₂
    rw [List.length_cons, List.length_cons, ih hrest]

/-- **The two passes agree on the number of entries.** -/
theorem makeBindGroup_regular {l : GroupLayout} (hl : l.entries.length = l.group.bindings.length) :
    ThrowsRegular (makeBindGroup table l) := by
  refine (bindAll_regular _ _ _).bind fun _ entries _ h => .check (fun hne => ?_) (throwsOnly_call _)
  exact absurd ((length_of_bindAll h).trans hl.symm) hne

/-- Making the bind groups of layouts that were made does not find a mismatch. -/
theorem makeBindGroups_regular {stages : List ShaderInterface} {layouts : List GroupLayout}
    (h : makeLayouts stages table c = .ok layouts c') :
    ThrowsRegular (makeBindGroups table layouts) := by
  obtain ⟨-, hmade⟩ := makeLayouts_made h
  exact .mapM fun l hl => makeBindGroup_regular (hmade l hl).entries.length_eq.symm

/-! ## Compiling -/

namespace Work

theorem needShader_regular (stage : Stage) (shader : Option ResourceId) :
    ThrowsRegular (needShader stage shader) := by
  cases shader with
  | none => exact throwsOnly_throw trivial
  | some id => exact throwsOnly_pure id

theorem interface_regular (id : ResourceId) : ThrowsRegular (interface id) := by
  intro c e c' h
  cases hs : c.shaders.get? id with
  | none =>
    cases (interface_of_none hs).symm.trans h
    trivial
  | some s =>
    rw [interface_of_some hs] at h
    split at h
    · cases h
    · cases h
      trivial

theorem stageInterface_regular (stage : Stage) (id : ResourceId) :
    ThrowsRegular (stageInterface stage id) :=
  (throwsRegular_lift _).bind fun _ _ _ _ => .check (fun _ => trivial)
    ((interface_regular id).bind fun _ _ _ _ => .check (fun _ => trivial) (throwsOnly_pure _))

end Work

/-- What compiling with a bag of uniforms may fail with: the error of the bag, or a regular one. -/
def FailsOf (bag : Bag) (e : CompileError) : Prop := bag.uniforms = .error e ∨ e.Regular

theorem uniforms_failsOf (bag : Bag) : FailsOnly (FailsOf bag) bag.uniforms := fun _ h => .inl h

section FailsOf

variable {α : Type} {bag : Bag}

theorem FailsOnly.failsOf {r : Except CompileError α} (h : Regular r) : FailsOnly (FailsOf bag) r :=
  fun e he => .inr (h e he)

theorem ThrowsOnly.failsOf {w : Work CompileError α} (h : ThrowsRegular w) :
    ThrowsOnly (FailsOf bag) w := h.imp fun _ => .inr

end FailsOf

theorem RenderDesc.prepare_failsOf (d : RenderDesc) : ThrowsOnly (FailsOf d.uniforms) d.prepare := by
  refine (Work.needShader_regular _ _).failsOf.bind fun _ _ _ _ =>
    (Work.needShader_regular _ _).failsOf.bind fun _ _ _ _ =>
    (Work.stageInterface_regular _ _).failsOf.bind fun _ _ _ _ =>
    (Work.stageInterface_regular _ _).failsOf.bind fun _ _ _ _ =>
    (throwsOnly_liftExcept (attributes_regular _).failsOf).bind fun _ _ _ _ =>
    (throwsOnly_liftExcept (uniforms_failsOf _)).bind fun _ _ _ _ =>
    (makeLayouts_regular _).failsOf.bind fun _ _ _ hlayouts => ?_
  refine throwsOnly_context.bind fun _ _ _ _ =>
    (throwsOnly_liftExcept (d.draw.check_regular _).failsOf).bind fun _ _ _ _ =>
    (throwsOnly_liftExcept (colorTargets_regular _ _).failsOf).bind fun _ _ _ _ =>
    (throwsOnly_liftExcept (checkOutputs_regular _ _).failsOf).bind fun _ _ _ _ =>
    (throwsOnly_liftExcept (depthState_regular _ _).failsOf).bind fun _ _ _ _ =>
    (throwsOnly_call _).bind fun _ _ _ _ =>
    (throwsOnly_liftExcept (vertexState_regular _ _ _).failsOf).bind fun _ _ _ _ =>
    (makeBindGroups_regular hlayouts).failsOf.bind fun _ _ _ _ => throwsOnly_pure _

theorem ComputeDesc.prepare_failsOf (d : ComputeDesc) :
    ThrowsOnly (FailsOf d.uniforms) d.prepare :=
  (Work.needShader_regular _ _).failsOf.bind fun _ _ _ _ =>
    (Work.stageInterface_regular _ _).failsOf.bind fun _ _ _ _ =>
    (throwsOnly_liftExcept (uniforms_failsOf _)).bind fun _ _ _ _ =>
    (makeLayouts_regular _).failsOf.bind fun _ _ _ hlayouts =>
    throwsOnly_context.bind fun _ _ _ _ =>
    (throwsOnly_liftExcept (d.dispatch.check_regular _ _).failsOf).bind fun _ _ _ _ =>
    (throwsOnly_call _).bind fun _ _ _ _ =>
    (makeBindGroups_regular hlayouts).failsOf.bind fun _ _ _ _ => throwsOnly_pure _

/-- A bag only fails with the error that something in it cannot be bound. -/
theorem Bag.uniforms_eq_error {bag : Bag} {e : CompileError} (h : bag.uniforms = .error e) :
    ∃ name role, e = .unsupportedUniform name role := by
  unfold Bag.uniforms at h
  split at h
  · cases h
    exact ⟨_, _, rfl⟩
  · cases h

/-- Neither error is returned, but for the one that the bag itself fails with. -/
theorem FailsOf.regular {bag : Bag} {e : CompileError} (h : FailsOf bag e) :
    (∀ group expected actual, e ≠ .bindGroupEntryMismatch group expected actual) ∧
      ∀ name role, e = .unsupportedUniform name role → bag.uniforms = .error e := by
  obtain h | h := h
  · obtain ⟨name, role, rfl⟩ := Bag.uniforms_eq_error h
    exact ⟨fun _ _ _ he => (nomatch he), fun _ _ _ => h⟩
  · refine ⟨fun _ _ _ he => ?_, fun _ _ he => ?_⟩ <;> subst he <;> exact h.elim

/-- Compiling a render pass returns neither error, but for the one of its bag. -/
theorem RenderDesc.compile_regular {d : RenderDesc} {e : CompileError}
    (h : d.compile c = .error e c') :
    (∀ group expected actual, e ≠ .bindGroupEntryMismatch group expected actual) ∧
      ∀ name role, e = .unsupportedUniform name role → d.uniforms.uniforms = .error e :=
  (d.prepare_failsOf c e c' (compile_eq_error h)).regular

/-- Compiling a compute pass returns neither error, but for the one of its bag. -/
theorem ComputeDesc.compile_regular {d : ComputeDesc} {e : CompileError}
    (h : d.compile c = .error e c') :
    (∀ group expected actual, e ≠ .bindGroupEntryMismatch group expected actual) ∧
      ∀ name role, e = .unsupportedUniform name role → d.uniforms.uniforms = .error e :=
  (d.prepare_failsOf c e c' (compile_eq_error h)).regular

end PassForge
