import PassForge.Proofs.Pass.Checks
import PassForge.Proofs.Pass.Steps

/-!
# Compiling from twins

What compiling does before it makes the pipeline agrees on twins: it succeeds from both, or fails
from both with the same error. Each part of it yields values that the later parts cannot tell apart,
such as layouts of the same groups with the same entries.

* `agrees_stageInterface`, `agrees_makeLayouts`, `agrees_makeBindGroups`: the parts.
* `RenderDesc.agrees_prepare`, `ComputeDesc.agrees_prepare`: all of them.
-/

namespace PassForge

variable {table : UniformTable} {id : ResourceId} {stage : Stage}

/-! ## Stages -/

namespace Work

theorem outcome_interface {c : Context} {s : Shader} (h : c.shaders.get? id = some s)
    (hs : s.Sound) :
    outcome (interface id) c = (s.code.reflect s.entryPoint).mapError CompileError.reflect := by
  unfold outcome
  rw [interface_of_some h, Shader.reflect_eq hs]
  cases s.code.reflect s.entryPoint <;> rfl

theorem agrees_interface : Agrees Eq (interface id) (interface id) := by
  intro c c' ht
  obtain ⟨hs, hs'⟩ | ⟨s, s', hs, hs', heq⟩ := Store.get?_of_map ht.shaders id
  · rw [outcome_error (interface_of_none hs), outcome_error (interface_of_none hs'),
      Store.kind_of_map ht.shaders]
    exact .error
  · rw [outcome_interface hs (ht.left.shaders id s hs),
      outcome_interface hs' (ht.right.shaders id s' hs')]
    have hcode : s'.code = s.code := (congrArg Shader.code heq : s'.bare.code = s.bare.code)
    have hentry : s'.entryPoint = s.entryPoint :=
      (congrArg Shader.entryPoint heq : s'.bare.entryPoint = s.bare.entryPoint)
    exact .of_eq (by rw [hcode, hentry])

theorem agrees_needShader (shader : Option ResourceId) :
    Agrees Eq (needShader stage shader) (needShader stage shader) := by
  cases shader with
  | none => exact agrees_throw
  | some id => exact agrees_pure rfl

theorem agrees_stageInterface : Agrees Eq (stageInterface stage id) (stageInterface stage id) := by
  unfold stageInterface
  have hfind := @agrees_find _ _ id .shaders Shader.bare fun _ _ ht => ht.shaders
  refine hfind.lift.bind runs_find.lift runs_find.lift fun s s' heq => ?_
  have hstage : s'.stage = s.stage := (congrArg Shader.stage heq : s'.bare.stage = s.bare.stage)
  refine .check (by rw [hstage]) (by rw [hstage]) ?_
  refine agrees_interface.bind (interface_touches id) (interface_touches id) fun i i' hi => ?_
  subst hi
  exact .check Iff.rfl rfl (agrees_pure rfl)

end Work

/-! ## Layouts -/

/-- Layouts of the same group with the same entries. -/
def GroupLayout.Alike (l l' : GroupLayout) : Prop := l'.group = l.group ∧ l'.entries = l.entries

theorem agrees_makeLayout (g : MergedGroup) :
    Agrees GroupLayout.Alike (makeLayout table g) (makeLayout table g) :=
  agrees_context fun _ _ ht => .except (ht.layoutEntries g.bindings) fun _ =>
    agrees_call.bind (fun _ => .single (.layout ..)) (fun _ => .single (.layout ..))
      fun _ _ _ => agrees_pure ⟨rfl, rfl⟩

theorem agrees_makeLayouts (stages : List ShaderInterface) :
    Agrees (List.Forall₂ GroupLayout.Alike) (makeLayouts stages table)
      (makeLayouts stages table) :=
  agrees_context fun c c' ht => .except (by rw [ht.limits]) fun groups =>
    Agrees.mapM (P := Eq) (fun g _ hg => hg ▸ agrees_makeLayout g) makeLayout_touches
      makeLayout_touches (List.forall₂_same.2 fun _ _ => rfl)

theorem agrees_makePipelineLayout (label : Option String) (layouts layouts' : List GroupLayout) :
    Agrees (fun _ _ => True) (makePipelineLayout label layouts)
      (makePipelineLayout label layouts') := agrees_call

/-! ## Bind groups -/

/-- Whether a binding needs storage access to its texture. -/
def ResourceKind.isStorageTexture : ResourceKind → Bool
  | storageTexture _ _ _ => true
  | _ => false

/-- Binding a texture is one action on it. -/
theorem bindTexture_eq (b : MergedBinding) (t : Texture) :
    bindTexture b t =
      liftM (Work.on .textures t.id (Texture.bindView b.kind.isStorageTexture)) >>= fun v =>
        pure (.view v) := by
  have hlift {use : Action Texture Unit} :
      (liftM (Work.on .textures t.id use) >>= fun _ =>
        liftM (Work.on .textures t.id Texture.view) >>= fun v => pure (.view v) :
          Work CompileError BoundResource) =
      liftM (Work.on .textures t.id (use >>= fun _ => Texture.view)) >>= fun v =>
        pure (.view v) := by
    rw [← bind_assoc, ← lift_bind, on_bind]
  unfold bindTexture
  cases b.kind with
  | storageTexture => exact hlift
  | uniformBuffer | storageBuffer | texture | sampler => exact hlift

theorem agrees_bindTexture (b : MergedBinding) {t t' : Texture} (heq : t'.bare = t.bare) :
    Agrees (fun _ _ => True) (bindTexture b t) (bindTexture b t') := by
  have hid : t'.id = t.id := Texture.field_of_bare Texture.id (fun _ => rfl) heq
  have hruns := (@Work.on_texture_touches _ t.id _
    (Texture.bindView_uses b.kind.isStorageTexture)).lift
  rw [bindTexture_eq, bindTexture_eq, hid]
  exact (agrees_bindView _).lift.bind hruns hruns fun _ _ _ => agrees_pure trivial

/-- The range that is cut from a buffer does not depend on what binding leaves on it. -/
theorem cut_congr {buffer buffer' : Buffer} (heq : buffer'.bare = buffer.bare) (limits : Limits)
    (b : MergedBinding) (cuts : Cuts) : cut limits buffer' b cuts = cut limits buffer b cuts := by
  show cut limits buffer'.bare b cuts = _
  rw [heq]
  rfl

theorem agrees_bindBuffer (g : MergedGroup) (b : MergedBinding) {buffer buffer' : Buffer}
    (heq : buffer'.bare = buffer.bare) (cuts : Cuts) :
    Agrees (fun r r' => r'.2 = r.2) (bindBuffer table g b buffer cuts)
      (bindBuffer table g b buffer' cuts) := by
  have hid : buffer'.id = buffer.id := (congrArg Buffer.id heq : buffer'.bare.id = buffer.bare.id)
  have hruns := (@Work.on_buffer_touches _ buffer.id _ Buffer.handle_uses).lift
  unfold bindBuffer
  rw [hid]
  refine agrees_bufferHandle.lift.bind hruns hruns fun _ _ _ => .ite (agrees_pure rfl) ?_
  refine agrees_context fun c c' ht => .except ?_ fun r => agrees_pure rfl
  rw [ht.limits, cut_congr heq]

theorem agrees_bindResource (g : MergedGroup) (b : MergedBinding) (cuts : Cuts) :
    Agrees (fun r r' => r'.2 = r.2) (bindResource table g b cuts)
      (bindResource table g b cuts) := by
  refine agrees_context fun c c' ht => ?_
  refine (agrees_liftExcept ht.resolve).bind runs_liftExcept runs_liftExcept fun r r' heq => ?_
  cases r with
  | buffer buffer =>
    cases r' with
    | buffer buffer' => exact agrees_bindBuffer g b (Resolved.buffer.inj heq) cuts
    | texture | sampler => cases heq
  | texture t =>
    cases r' with
    | texture t' =>
      exact (agrees_bindTexture b (Resolved.texture.inj heq)).bind (bindTexture_touches b t)
        (bindTexture_touches b t') fun _ _ _ => agrees_pure rfl
    | buffer | sampler => cases heq
  | sampler s =>
    cases r' with
    | sampler s' =>
      have hs : s'.bare = s.bare := Resolved.sampler.inj heq
      have hid : s'.id = s.id := (congrArg Sampler.id hs : s'.bare.id = s.bare.id)
      have hruns := (@Work.on_sampler_touches _ s.id _ Sampler.handle_runs).lift
      dsimp only
      rw [hid]
      exact agrees_samplerHandle.lift.bind hruns hruns fun _ _ _ => agrees_pure rfl
    | buffer | texture => cases heq

theorem agrees_bindAll (g : MergedGroup) (bs : List MergedBinding) (cuts : Cuts) :
    Agrees (fun es es' => es'.length = es.length) (bindAll table g bs cuts)
      (bindAll table g bs cuts) := by
  induction bs generalizing cuts with
  | nil => exact agrees_pure rfl
  | cons b bs ih =>
    refine (agrees_bindResource g b cuts).bind (bindResource_touches g b cuts)
      (bindResource_touches g b cuts) fun r r' hr => ?_
    show Agrees _ (bindAll table g bs r.2 >>= _) (bindAll table g bs r'.2 >>= _)
    rw [hr]
    exact (ih r.2).bind (bindAll_touches g bs r.2) (bindAll_touches g bs r.2)
      fun es es' hes => agrees_pure (congrArg Nat.succ hes)

theorem agrees_makeBindGroup {l l' : GroupLayout} (h : l.Alike l') :
    Agrees (fun _ _ => True) (makeBindGroup table l) (makeBindGroup table l') := by
  unfold makeBindGroup
  rw [h.1, h.2]
  have hruns := @bindAll_touches table l.group l.group.bindings .empty
  refine (agrees_bindAll l.group l.group.bindings .empty).bind hruns hruns fun es es' hes => ?_
  exact .check (by rw [hes]) (by rw [hes]) agrees_call

theorem agrees_makeBindGroups {layouts layouts' : List GroupLayout}
    (h : List.Forall₂ GroupLayout.Alike layouts layouts') :
    Agrees (fun _ _ => True) (makeBindGroups table layouts) (makeBindGroups table layouts') :=
  (Agrees.mapM (fun _ _ h => agrees_makeBindGroup h) makeBindGroup_touches
    makeBindGroup_touches h).imp fun _ _ _ => trivial

/-! ## Compiling -/

/-- **What compiling a render pass does before it makes the pipeline agrees on twins.** -/
theorem RenderDesc.agrees_prepare (d : RenderDesc) :
    Agrees (fun _ _ => True) d.prepare d.prepare := by
  refine (Work.agrees_needShader _).bind_eq (Work.needShader_touches _ _) fun vertexShader => ?_
  refine (Work.agrees_needShader _).bind_eq (Work.needShader_touches _ _) fun fragmentShader => ?_
  refine Work.agrees_stageInterface.bind_eq (Work.stageInterface_touches _ _) fun vertex => ?_
  refine Work.agrees_stageInterface.bind_eq (Work.stageInterface_touches _ _) fun fragment => ?_
  refine .except rfl fun attributes => .except rfl fun uniforms => ?_
  refine (agrees_makeLayouts _).bind (makeLayouts_touches _) (makeLayouts_touches _)
    fun layouts layouts' hlayouts => ?_
  refine agrees_context fun c c' ht => .except (ht.draw d.draw) fun _ =>
    .except (ht.targets d.colors) fun targets => .except rfl fun _ =>
    .except (ht.depth d.depth) fun depth => ?_
  refine (agrees_makePipelineLayout _ _ _).bind (makePipelineLayout_touches _ _)
    (makePipelineLayout_touches _ _) fun _ _ _ => ?_
  refine .except (ht.vertices vertex.vertexInputs attributes) fun vertices => ?_
  exact (agrees_makeBindGroups hlayouts).bind (makeBindGroups_touches _) (makeBindGroups_touches _)
    fun _ _ _ => agrees_pure trivial

/-- **What compiling a compute pass does before it makes the pipeline agrees on twins.** -/
theorem ComputeDesc.agrees_prepare (d : ComputeDesc) :
    Agrees (fun _ _ => True) d.prepare d.prepare := by
  refine (Work.agrees_needShader _).bind_eq (Work.needShader_touches _ _) fun shader => ?_
  refine Work.agrees_stageInterface.bind_eq (Work.stageInterface_touches _ _) fun i => ?_
  refine .except rfl fun uniforms => ?_
  refine (agrees_makeLayouts _).bind (makeLayouts_touches _) (makeLayouts_touches _)
    fun layouts layouts' hlayouts => ?_
  refine agrees_context fun c c' ht => .except (ht.dispatch d.dispatch) fun _ => ?_
  refine (agrees_makePipelineLayout _ _ _).bind (makePipelineLayout_touches _ _)
    (makePipelineLayout_touches _ _) fun _ _ _ => ?_
  exact (agrees_makeBindGroups hlayouts).bind (makeBindGroups_touches _) (makeBindGroups_touches _)
    fun _ _ _ => agrees_pure trivial

end PassForge
