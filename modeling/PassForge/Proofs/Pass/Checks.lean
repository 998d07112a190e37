import PassForge.Pass.Compute
import PassForge.Pass.Render
import PassForge.Proofs.Checks
import PassForge.Proofs.Context.Twin

/-!
# Checks of twins

The checks of compiling read fields of resources that binding leaves alone. So a check of a bare
context is the check of the context, and twins pass the same checks and fail them with the same
errors.

* `resolve_bare`: what stands behind a binding of a bare context is what stands behind it, bare.
* `layoutEntry_bare`, `colorTargets_bare`, `depthState_bare`: the other checks that read a context.
* `Draw.check_bare`, `Dispatch.check_bare`, `vertexState_bare`: checks that read buffers alone.
* `Twin.layoutEntry`, `Twin.draw` and the like: the same for twins.
-/

namespace PassForge

variable {c c' : Context} {samples : SampleCount} {table : UniformTable} {group : Nat}
  {b : MergedBinding} {buffers : Store Buffer} {id : ResourceId}

/-! ## Buffers -/

namespace Draw

theorem checkIndex_bare : checkIndex (buffers.map Buffer.bare) id = checkIndex buffers id := by
  unfold checkIndex
  rw [Store.require_map]
  cases buffers.require id <;> rfl

theorem checkArguments_bare {kind : BufferKind} {count : Nat} :
    checkArguments (buffers.map Buffer.bare) kind id count =
      checkArguments buffers kind id count := by
  unfold checkArguments
  rw [Store.require_map]
  cases buffers.require id <;> rfl

theorem check_bare (d : Draw) : d.check (buffers.map Buffer.bare) = d.check buffers := by
  unfold check
  simp only [checkIndex_bare, checkArguments_bare]

/-- A draw is accepted iff its index buffer and its argument buffer are, as far as it has them. -/
theorem check_eq_ok_iff {d : Draw} : d.check buffers = .ok () ↔
    (∀ id, d.index? = some id → checkIndex buffers id = .ok ()) ∧
      ∀ p, d.arguments? = some p → checkArguments buffers d.argumentsKind p.1 p.2 = .ok () := by
  unfold check
  cases d.index? with
  | none => cases d.arguments? <;> simp [pure, Except.pure]
  | some id => cases d.arguments? <;> simp [bind_eq_ok_iff, Unique.exists_iff, pure, Except.pure]

end Draw

namespace Dispatch

theorem checkArguments_bare {offset : Nat} :
    checkArguments (buffers.map Buffer.bare) id offset = checkArguments buffers id offset := by
  unfold checkArguments
  rw [Store.require_map]
  cases buffers.require id <;> rfl

theorem check_bare (d : Dispatch) (limits : Limits) :
    d.check (buffers.map Buffer.bare) limits = d.check buffers limits := by
  cases d with
  | workgroups => rfl
  | indirect => exact checkArguments_bare

end Dispatch

theorem vertexState_bare (inputs : List VertexInput) (t : AttributeTable) :
    vertexState inputs t (buffers.map Buffer.bare) = vertexState inputs t buffers := by
  unfold vertexState
  cases inputs.mapM t.feed with
  | error e => rfl
  | ok feeds =>
    show (List.mapM (buffers.map Buffer.bare).require _ >>= _) = (List.mapM buffers.require _ >>= _)
    rw [Store.mapM_require_map]
    cases List.mapM buffers.require (feeds.map VertexFeed.buffer).eraseDups <;> rfl

/-! ## Targets -/

theorem colorTarget_bare {index : Nat} :
    colorTarget c.bare samples index id = colorTarget c samples index id := by
  unfold colorTarget
  show (c.colorAttachments.require id >>= _) = (c.colorAttachments.require id >>= _)
  cases c.colorAttachments.require id with
  | error e => rfl
  | ok a =>
    show ((c.textures.map Texture.bare).require a.texture >>= _) =
      (c.textures.require a.texture >>= _)
    rw [Store.require_map]
    cases c.textures.require a.texture <;> rfl

theorem colorTargets_bare (attachments : List ResourceId) :
    colorTargets c.bare samples attachments = colorTargets c samples attachments := by
  unfold colorTargets
  simp only [colorTarget_bare]

theorem depthState_bare (attachment : Option ResourceId) :
    depthState c.bare samples attachment = depthState c samples attachment := by
  cases attachment with
  | none => rfl
  | some id =>
    unfold depthState
    show (c.depthAttachments.require id >>= _) = (c.depthAttachments.require id >>= _)
    cases c.depthAttachments.require id with
    | error e => rfl
    | ok a =>
      show ((c.textures.map Texture.bare).require a.texture >>= _) =
        (c.textures.require a.texture >>= _)
      rw [Store.require_map]
      cases c.textures.require a.texture <;> rfl

/-! ## Bindings -/

/-- What stands behind a binding, without what binding leaves on it. -/
def Resolved.bare : Resolved → Resolved
  | .buffer b => .buffer b.bare
  | .texture t => .texture t.bare
  | .sampler s => .sampler s.bare

theorem resolve_bare :
    resolve c.bare table group b = (resolve c table group b).map Resolved.bare := by
  unfold resolve
  cases table.assignment? b.name with
  | none => rfl
  | some a =>
    cases b.kind with
    | uniformBuffer =>
      dsimp only
      split
      · show Resolved.buffer <$> (c.buffers.map Buffer.bare).require a.resource = _
        rw [Store.require_map]
        cases c.buffers.require a.resource <;> rfl
      · rfl
    | storageBuffer =>
      dsimp only
      split
      · show ((c.buffers.map Buffer.bare).require a.resource >>= _) = _
        rw [Store.require_map]
        cases c.buffers.require a.resource with
        | error e => rfl
        | ok buffer =>
          show (if buffer.kind = .uniform then _ else _) =
            Except.map Resolved.bare (if buffer.kind = .uniform then _ else _)
          split <;> rfl
      · rfl
    | texture | storageTexture =>
      dsimp only
      split
      · show Resolved.texture <$> (c.textures.map Texture.bare).require a.resource = _
        rw [Store.require_map]
        cases c.textures.require a.resource <;> rfl
      · rfl
    | sampler comparison =>
      dsimp only
      split
      · show ((c.samplers.map Sampler.bare).require a.resource >>= _) = _
        rw [Store.require_map]
        cases c.samplers.require a.resource with
        | error e => rfl
        | ok sampler =>
          show (if comparison ≠ decide (sampler.kind = .comparison) then _ else _) =
            Except.map Resolved.bare
              (if comparison ≠ decide (sampler.kind = .comparison) then _ else _)
          split <;> rfl
      · rfl

theorem MergedBinding.type_bare (r : Resolved) : b.type r.bare = b.type r := by
  unfold MergedBinding.type
  cases b.kind with
  | sampler comparison => cases comparison <;> cases r <;> rfl
  | uniformBuffer | storageBuffer | texture | storageTexture => cases r <;> rfl

theorem layoutEntry_bare : layoutEntry c.bare table group b = layoutEntry c table group b := by
  unfold layoutEntry
  rw [resolve_bare]
  cases resolve c table group b with
  | error e => rfl
  | ok r =>
    show (b.type r.bare >>= _) = (b.type r >>= _)
    rw [MergedBinding.type_bare]

/-! ## Twins -/

namespace Twin

variable (h : Twin c c')
include h

/-- What does not depend on what compiling leaves is the same of twins. -/
theorem congr {α : Type} {f : Context → α} (hf : ∀ c, f c.bare = f c) : f c' = f c := by
  rw [← hf c', h.bare, hf]

theorem draw (d : Draw) : d.check c'.buffers = d.check c.buffers :=
  h.congr (f := fun c => d.check c.buffers) fun _ => d.check_bare

theorem dispatch (d : Dispatch) :
    d.check c'.buffers c'.device.limits = d.check c.buffers c.device.limits :=
  h.congr (f := fun c => d.check c.buffers c.device.limits) fun c => d.check_bare c.device.limits

theorem vertices (inputs : List VertexInput) (t : AttributeTable) :
    vertexState inputs t c'.buffers = vertexState inputs t c.buffers :=
  h.congr (f := fun c => vertexState inputs t c.buffers) fun _ => vertexState_bare inputs t

theorem targets (attachments : List ResourceId) :
    colorTargets c' samples attachments = colorTargets c samples attachments :=
  h.congr (f := fun c => colorTargets c samples attachments) fun _ => colorTargets_bare attachments

theorem depth (attachment : Option ResourceId) :
    depthState c' samples attachment = depthState c samples attachment :=
  h.congr (f := fun c => depthState c samples attachment) fun _ => depthState_bare attachment

theorem layoutEntries (bs : List MergedBinding) :
    bs.mapM (layoutEntry c' table group) = bs.mapM (layoutEntry c table group) :=
  h.congr (f := fun c => bs.mapM (layoutEntry c table group)) fun _ =>
    congrArg bs.mapM (funext fun _ => layoutEntry_bare)

/-- Behind a binding of twins stand resources that are the same when bare, or the same fault. -/
theorem resolve : Agree (fun r r' => r'.bare = r.bare) (resolve c table group b)
    (resolve c' table group b) := by
  refine (Agree.of_map (f := Resolved.bare) ?_).imp fun _ _ => Eq.symm
  rw [← resolve_bare, ← resolve_bare, h.bare]

end Twin

end PassForge
