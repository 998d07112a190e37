import Mathlib
import PassForge.Proofs.Context.Rendering
import PassForge.Proofs.Pass.Checked
import PassForge.Proofs.Pass.Replay

/-!
# Passes and their pipelines

The pipeline of a render pass is made when the pass is compiled, and the attachments are read anew
each time it is recorded. Both are found out from the same attachments and their textures, whose
formats, samples and options never change.

* `Context.SuitsColor` and `Context.SuitsDepth` say what compiling has found out about an attachment;
  `colorTargets_suits` and `depthState_suits` say that it did, and that lasts.
* `Context.ShowsColor` and `Context.ShowsDepth` say which view recording reads for it.
* `RenderPass.Agrees` puts the two together, and `compatible_spec` is the whole statement.
-/

namespace PassForge

open Context (Arrange Lasting Step)
open Relation (ReflTransGen)

variable {c c' : Context} {id : ResourceId} {samples : Nat}

/-! ## What compiling finds out -/

namespace Context

/-- An attachment has a texture with so many samples and gives a pipeline a target. -/
def SuitsColor (c : Context) (samples : Nat) (id : ResourceId) (target : ColorTarget) : Prop :=
  ∃ a t, c.colorAttachments.get? id = some a ∧ c.textures.get? a.texture = some t ∧
    t.samples = samples ∧ target = a.target t

/-- An attachment has a texture with so many samples and gives a pipeline a depth-stencil state. -/
def SuitsDepth (c : Context) (samples : Nat) (id : ResourceId) (s : DepthStencilState) : Prop :=
  ∃ a t, c.depthAttachments.get? id = some a ∧ c.textures.get? a.texture = some t ∧
    t.samples = samples ∧ s = a.state t

theorem SuitsColor.attached {target : ColorTarget} (h : c.SuitsColor samples id target) :
    ∃ a t, c.colorAttachments.get? id = some a ∧ c.textures.get? a.texture = some t := by
  obtain ⟨a, t, ha, ht, -, -⟩ := h
  exact ⟨a, t, ha, ht⟩

theorem SuitsDepth.attached {s : DepthStencilState} (h : c.SuitsDepth samples id s) :
    ∃ a t, c.depthAttachments.get? id = some a ∧ c.textures.get? a.texture = some t := by
  obtain ⟨a, t, ha, ht, -, -⟩ := h
  exact ⟨a, t, ha, ht⟩

theorem SuitsColor.lasting {target : ColorTarget} (h : c.SuitsColor samples id target)
    (hc : Lasting c c') : c'.SuitsColor samples id target := by
  obtain ⟨a, t, ha, ht, hsamples, rfl⟩ := h
  obtain ⟨t', ht', hfixed⟩ := hc.fixedTexture ht
  have hformat : t'.format = t.format := (congrArg Texture.format hfixed :)
  have hsame : t'.samples = t.samples := (congrArg Texture.samples hfixed :)
  refine ⟨a, t', hc.colorAttachment ha, ht', hsame.trans hsamples, ?_⟩
  simp only [ColorAttachment.target, hformat]

theorem SuitsDepth.lasting {s : DepthStencilState} (h : c.SuitsDepth samples id s)
    (hc : Lasting c c') : c'.SuitsDepth samples id s := by
  obtain ⟨a, t, ha, ht, hsamples, rfl⟩ := h
  obtain ⟨t', ht', hfixed⟩ := hc.fixedTexture ht
  have hformat : t'.format = t.format := (congrArg Texture.format hfixed :)
  have hsame : t'.samples = t.samples := (congrArg Texture.samples hfixed :)
  refine ⟨a, t', hc.depthAttachment ha, ht', hsame.trans hsamples, ?_⟩
  simp only [DepthAttachment.state, hformat]

end Context

theorem colorTarget_suits {count : SampleCount} {index : Nat} {target : ColorTarget}
    (h : colorTarget c count index id = .ok target) : c.SuitsColor count.count id target := by
  obtain ⟨a, ha, h⟩ := bind_eq_ok_iff.1 h
  obtain ⟨t, ht, h⟩ := bind_eq_ok_iff.1 h
  obtain ⟨hsamples, h⟩ := of_check_eq_ok h
  cases h
  exact ⟨a, t, Store.require_eq_ok_iff.1 ha, Store.require_eq_ok_iff.1 ht, not_not.1 hsamples, rfl⟩

theorem colorTargets_suits {count : SampleCount} {ids : List ResourceId} {targets : List ColorTarget}
    (h : colorTargets c count ids = .ok targets) :
    List.Forall₂ (c.SuitsColor count.count) ids targets := by
  have hall := mapM_eq_ok_iff.1 h
  have hfst : ids.zipIdx.map Prod.fst = ids := List.zipIdx_map_fst ..
  rw [← hfst, List.forall₂_map_left_iff]
  exact hall.imp fun _ _ htarget => colorTarget_suits htarget

theorem depthState_suits {count : SampleCount} {depth : Option ResourceId}
    {state : Option DepthStencilState} (h : depthState c count depth = .ok state) :
    Option.Rel (c.SuitsDepth count.count) depth state := by
  cases depth with
  | none =>
    cases h
    exact .none
  | some id =>
    obtain ⟨a, ha, h⟩ := bind_eq_ok_iff.1 h
    obtain ⟨t, ht, h⟩ := bind_eq_ok_iff.1 h
    obtain ⟨hsamples, h⟩ := of_check_eq_ok h
    cases h
    exact .some ⟨a, t, Store.require_eq_ok_iff.1 ha, Store.require_eq_ok_iff.1 ht,
      not_not.1 hsamples, rfl⟩

/-! ## What recording reads -/

namespace Context

/-- A colour attachment is recorded with a view for rendering into its texture. -/
def ShowsColor (c : Context) (id : ResourceId) (p : ColorPass) : Prop :=
  ∃ a, c.colorAttachments.get? id = some a ∧ c.Renders a.texture a.layer p.view

/-- A depth-stencil attachment is recorded with a view for rendering into its texture. -/
def ShowsDepth (c : Context) (id : ResourceId) (p : DepthPass) : Prop :=
  ∃ a, c.depthAttachments.get? id = some a ∧ c.Renders a.texture 0 p.view

theorem Renders.arranges {texture : ResourceId} {layer : Nat} {v : View}
    (h : c.Renders texture layer v) (hc : ReflTransGen Arrange c c') :
    c'.Renders texture layer v :=
  have hserves := serves_of_arranges hc
  h.lasting (lasting_of_arranges hc) hserves.later hserves.surface

theorem ShowsColor.arranges {p : ColorPass} (h : c.ShowsColor id p)
    (hc : ReflTransGen Arrange c c') : c'.ShowsColor id p := by
  obtain ⟨a, ha, hview⟩ := h
  exact ⟨a, (lasting_of_arranges hc).colorAttachment ha, hview.arranges hc⟩

theorem ShowsDepth.arranges {p : DepthPass} (h : c.ShowsDepth id p)
    (hc : ReflTransGen Arrange c c') : c'.ShowsDepth id p := by
  obtain ⟨a, ha, hview⟩ := h
  exact ⟨a, (lasting_of_arranges hc).depthAttachment ha, hview.arranges hc⟩

theorem Reachable.arranges (hc : c.Reachable) (h : ReflTransGen Arrange c c') : c'.Reachable :=
  hc.steps (ReflTransGen.mono (fun _ _ => Arrange.step) _ _ h)

end Context

namespace Work

/-- Every view that is read for rendering is one for rendering into the layer. -/
theorem targetView_renders {texture : ResourceId} {layer : Nat} {v : View} (hc : c.Reachable)
    (h : targetView texture layer c = .ok v c') : c'.Renders texture layer v := by
  have hc' := hc.arranges ((targetView_arranges texture layer).of_eq_ok h)
  rw [targetView_eq] at h
  obtain ⟨t, l, ht, hl, rfl⟩ := on_eq_ok h
  have hget : (Shelf.textures.put texture l c).textures.get? texture = some l.object :=
    @Shelf.get?_put _ .textures _ c texture t l ht
  have hsound := (hc'.sound.textures texture l.object hget).2
  have hkeeps := hc'.textures Texture.persistent_keepsTargets texture l.object hget
  exact ⟨l.object, hget, Texture.attachView_targets hl hsound hkeeps⟩

theorem colorPass_shows {p : ColorPass} (hc : c.Reachable) (h : colorPass id c = .ok p c') :
    c'.ShowsColor id p := by
  obtain ⟨a, c₁, ha, hview, -, hrest⟩ := colorPass_cases h
  have hshows : c₁.ShowsColor id p :=
    ⟨a, (lasting_of_targetView hview).colorAttachment ha, targetView_renders hc hview⟩
  obtain ⟨-, -, rfl⟩ | ⟨target, v, -, -, hresolve⟩ := hrest
  · exact hshows
  · exact hshows.arranges ((targetView_arranges target 0).of_eq_ok hresolve)

theorem depthPass_shows {p : DepthPass} (hc : c.Reachable) (h : depthPass id c = .ok p c') :
    c'.ShowsDepth id p := by
  obtain ⟨a, t, ha, hview, -, -, -⟩ := depthPass_cases h
  exact ⟨a, (lasting_of_targetView hview).depthAttachment ha, targetView_renders hc hview⟩

end Work

namespace RenderPass

variable {r : RenderPass} {colors : List ColorPass} {depth : Option DepthPass}
  {commands : List RenderCommand} {u : Unit}

theorem depth_shows (hc : c.Reachable) (h : r.depth.mapM Work.depthPass c = .ok depth c') :
    Option.Rel c'.ShowsDepth r.depth depth := by
  generalize r.depth = id at h ⊢
  cases id with
  | none =>
    cases h
    exact .none
  | some id =>
    replace h : (some <$> Work.depthPass id) c = .ok depth c' := h
    rw [map_eq_pure_bind] at h
    obtain ⟨p, c₁, hp, hpure⟩ := bind_eq_ok h
    cases hpure
    exact .some (Work.depthPass_shows hc hp)

/-- The attachments of a pass are recorded with views for rendering into their textures. -/
theorem parts_shows (hc : c.Reachable) (h : r.parts c = .ok (colors, depth, commands) c') :
    List.Forall₂ c'.ShowsColor r.colors colors ∧ Option.Rel c'.ShowsDepth r.depth depth := by
  obtain ⟨colors, c₁, hcolors, h⟩ := bind_eq_ok h
  obtain ⟨depth, c₂, hdepth, h⟩ := bind_eq_ok h
  obtain ⟨commands, c₃, hcommands, h⟩ := bind_eq_ok h
  cases h
  have hfirst := (Runs.mapM Work.colorPass_arranges r.colors).of_eq_ok hcolors
  have hthird := r.commands_arranges.of_eq_ok hcommands
  have hcolor : List.Forall₂ c₁.ShowsColor r.colors colors :=
    forall₂_of_mapM (I := Context.Reachable) (P := fun id p c => c.ShowsColor id p)
      Work.colorPass_arranges (fun _ _ hs hc => hc.arranges hs) (fun _ _ _ _ hs h => h.arranges hs)
      (fun _ _ _ _ _ hc h => Work.colorPass_shows hc h) hc hcolors
  have hsecond := r.depth_arranges.of_eq_ok hdepth
  have hdepths := depth_shows (hc.arranges hfirst) hdepth
  exact ⟨hcolor.imp fun _ _ hp => hp.arranges (hsecond.trans hthird),
    optionRel_imp hdepths fun _ _ hp => hp.arranges hthird⟩

end RenderPass

/-! ## Agreement -/

namespace Context

/-- The view that a colour attachment is recorded with belongs to a texture with the format of a
target and so many samples. -/
def AgreesColor (c : Context) (samples : Nat) (id : ResourceId) (target : ColorTarget)
    (p : ColorPass) : Prop :=
  ∃ a t, c.colorAttachments.get? id = some a ∧ c.textures.get? a.texture = some t ∧
    t.Targets c.device a.layer p.view ∧ t.format = target.format ∧ t.samples = samples

/-- The view that a depth-stencil attachment is recorded with belongs to a texture with the format of
a depth-stencil state and so many samples. The depth aspect is started from something iff there is one
and it is not read only. Whether depth is written depends on the options alone: it is for an
unrecognized comparison, which is taken as less-or-equal, and for a known one unless that never passes
or depth is read only. So if there is a depth aspect and the comparison is a known one, depth is written
only if it is started from something. -/
structure AgreesDepth (c : Context) (samples : Nat) (a : DepthAttachment) (s : DepthStencilState)
    (p : DepthPass) : Prop where
  texture : ∃ t, c.textures.get? a.texture = some t ∧ t.Targets c.device 0 p.view ∧
    t.format = s.format ∧ t.samples = samples
  depth : p.depth.isSome ↔ s.format.hasDepth ∧ a.options.depthReadOnly = false
  writes : s.depthWrite ↔ a.options.depthCompare = .unrecognized ∨
    ∃ f, a.options.depthCompare = .known f ∧ f ≠ .never ∧ a.options.depthReadOnly = false
  known : a.options.depthCompare ≠ .unrecognized → s.format.hasDepth → s.depthWrite → p.depth.isSome
  unrecognized : a.options.depthCompare = .unrecognized →
    s.depthWrite ∧ s.depthCompare = .lessEqual

theorem SuitsColor.agrees {target : ColorTarget} {p : ColorPass}
    (h : c.SuitsColor samples id target) (hp : c.ShowsColor id p) :
    c.AgreesColor samples id target p := by
  obtain ⟨a, t, ha, ht, hsamples, rfl⟩ := h
  obtain ⟨a', ha', t', ht', hview⟩ := hp
  cases ha.symm.trans ha'
  cases ht.symm.trans ht'
  exact ⟨a, t, ha, ht, hview, rfl, hsamples⟩

/-- When the state of a pipeline writes depth. -/
theorem depthWrite_state_iff {a : DepthAttachment} {t : Texture} :
    (a.state t).depthWrite ↔ a.options.depthCompare = .unrecognized ∨
      ∃ f, a.options.depthCompare = .known f ∧ f ≠ .never ∧ a.options.depthReadOnly = false := by
  unfold DepthAttachment.state
  cases a.options.depthCompare with
  | unrecognized => simp
  | known f => cases f <;> simp

theorem SuitsDepth.agrees {s : DepthStencilState} {p : DepthPass}
    (h : c.SuitsDepth samples id s) (hp : c.ShowsDepth id p) (hr : c.RecordsDepth id p) :
    ∃ a, c.depthAttachments.get? id = some a ∧ c.AgreesDepth samples a s p := by
  obtain ⟨a, t, ha, ht, hsamples, rfl⟩ := h
  obtain ⟨a', ha', t', ht', hview⟩ := hp
  obtain ⟨a'', t'', ha'', ht'', -, hdepth, -⟩ := hr
  cases ha.symm.trans ha'
  cases ha.symm.trans ha''
  cases ht.symm.trans ht'
  cases ht.symm.trans ht''
  have hop : p.depth.isSome ↔ t.format.hasDepth ∧ a.options.depthReadOnly = false := by
    rw [hdepth]
    unfold DepthAttachment.depthOp
    cases t.format.hasDepth <;> cases a.options.depthReadOnly <;> simp
  refine ⟨a, ha, ⟨t, ht, hview, rfl, hsamples⟩, hop, depthWrite_state_iff,
    fun hknown haspect hwrite => ?_, fun hu => ⟨depthWrite_state_iff.2 (.inl hu), ?_⟩⟩
  · obtain hu | ⟨f, -, -, hwritable⟩ := depthWrite_state_iff.1 hwrite
    · exact absurd hu hknown
    · exact hop.2 ⟨haspect, hwritable⟩
  · unfold DepthAttachment.state
    rw [hu]

end Context

namespace RenderPass

variable {r : RenderPass} {p : Pipeline} {colors : List ColorPass} {depth : Option DepthPass}
  {commands : List RenderCommand}

/-- The attachments that a pass is recorded with agree with its pipeline: there is one target for each
colour attachment, and a depth-stencil state iff there is a depth-stencil attachment. -/
structure Agrees (r : RenderPass) (p : Pipeline) (c : Context) (colors : List ColorPass)
    (depth : Option DepthPass) : Prop where
  length : p.targets.length = r.colors.length ∧ colors.length = r.colors.length
  color : ∀ (i : Nat) (id : ResourceId), r.colors[i]? = some id → ∃ target pass,
    p.targets[i]? = some target ∧ colors[i]? = some pass ∧
      c.AgreesColor p.sampleCount id target pass
  depth_isSome : depth.isSome = p.depthStencil.isSome
  depth : ∀ s pass, p.depthStencil = some s → depth = some pass → ∃ id a, r.depth = some id ∧
    c.depthAttachments.get? id = some a ∧ c.AgreesDepth p.sampleCount a s pass

/-- What compiling has found out about the attachments agrees with what they are recorded with. -/
theorem agrees_of_suits (htargets : List.Forall₂ (c.SuitsColor p.sampleCount) r.colors p.targets)
    (hstate : Option.Rel (c.SuitsDepth p.sampleCount) r.depth p.depthStencil)
    (hcolors : List.Forall₂ c.ShowsColor r.colors colors)
    (hdepth : Option.Rel c.ShowsDepth r.depth depth)
    (hrecorded : r.RecordedAs c colors depth commands) : r.Agrees p c colors depth where
  length := ⟨htargets.length_eq.symm, hcolors.length_eq.symm⟩
  color i id hid := by
    obtain ⟨hi, rfl⟩ := List.getElem?_eq_some_iff.1 hid
    have htarget : i < p.targets.length := htargets.length_eq ▸ hi
    have hcolor : i < colors.length := hcolors.length_eq ▸ hi
    refine ⟨p.targets[i], colors[i], List.getElem?_eq_getElem htarget,
      List.getElem?_eq_getElem hcolor, ?_⟩
    exact (htargets.get hi htarget).agrees (hcolors.get hi hcolor)
  depth_isSome := by
    generalize r.depth = id at hstate hdepth
    generalize p.depthStencil = state at hstate
    cases hstate with
    | none =>
      cases hdepth
      rfl
    | some =>
      cases hdepth
      rfl
  depth s pass hs hpass := by
    have hrecorded := hrecorded.depth
    rw [hs] at hstate
    rw [hpass] at hdepth hrecorded
    generalize r.depth = id at hstate hdepth hrecorded
    cases hstate with
    | some hsuits =>
      cases hdepth with
      | some hshows =>
        cases hrecorded with
        | some hrecords =>
          obtain ⟨a, ha, hagrees⟩ := hsuits.agrees hshows hrecords
          exact ⟨_, a, rfl, ha, hagrees⟩

end RenderPass

/-- What compiling has found out about the attachments of a pass, in the context that it leaves. -/
theorem RenderDesc.compile_suits {d : RenderDesc} {r : RenderPass} (hc : c.Reachable)
    (h : d.compile c = .ok r c') : ∃ pipeline layout vertexModule fragmentModule,
      c'.pipelines.get? r.pipelineId = some pipeline ∧ pipeline.serial = r.pipeline ∧
      .renderPipelineCreated layout vertexModule fragmentModule d.samples.state pipeline ∈
        c'.device.trace ∧
      List.Forall₂ (c'.SuitsColor pipeline.sampleCount) r.colors pipeline.targets ∧
      Option.Rel (c'.SuitsDepth pipeline.sampleCount) r.depth pipeline.depthStencil := by
  obtain ⟨p, c₁, vertex, fragment, c₀, hp, hf, hchecked, hlasting⟩ := d.compile_checked hc h
  obtain ⟨-, vertexShader, fragmentShader, vertexModule, fragmentModule, -, -, hregisters⟩ :=
    finish_registers hf
  have hcolors : r.colors = d.colors := congrArg RenderPass.colors hregisters.pass
  have hdepth : r.depth = d.depth := congrArg RenderPass.depth hregisters.pass
  refine ⟨d.pipeline p vertexShader fragmentShader r.pipeline, p.layout, vertexModule, fragmentModule,
    hregisters.registered, rfl, hregisters.made, ?_, ?_⟩
  · rw [hcolors]
    exact (colorTargets_suits hchecked.targets).imp fun _ _ hs => hs.lasting hlasting
  · rw [hdepth]
    exact optionRel_imp (depthState_suits hchecked.depth) fun _ _ hs => hs.lasting hlasting

/-- **A pass agrees with its pipeline.** Compile a render pass, do anything with the context and
record the pass. If that succeeds and the pass has colour attachments, it is recorded with the pipeline
that compiling has made and registered, and with attachments that agree with it:

* the view of each colour attachment belongs to a texture with the format of the target at the same
  place and with as many samples as the pipeline;
* there is a depth-stencil attachment iff the pipeline has a depth-stencil state, and its view belongs
  to a texture with the format of that and as many samples as the pipeline;
* the depth aspect is started from something iff the format has one and it is not read only. Where the
  format has one and the comparison is a known one, the pipeline writes depth only then;
* for an unrecognized comparison the pipeline falls back to less-or-equal with writes, and for a known
  one it writes depth unless that never passes or depth is read only, whatever the format. -/
theorem compatible_spec {d : RenderDesc} {r : RenderPass} {c c₁ c₂ c₃ : Context} (hc : c.Reachable)
    (hcompile : d.compile c = .ok r c₁) (hsteps : ReflTransGen Step c₁ c₂) (hcolors : r.colors ≠ [])
    (hbuild : r.build c₂ = .ok () c₃) :
    ∃ pipeline layout vertexModule fragmentModule mid colors depth commands,
      c₁.pipelines.get? r.pipelineId = some pipeline ∧
      .renderPipelineCreated layout vertexModule fragmentModule d.samples.state pipeline ∈
        c₁.device.trace ∧
      c₂.Encodes mid (.renderPass r.label colors depth commands) ∧
      .setPipeline pipeline.serial ∈ commands ∧ r.Agrees pipeline mid colors depth := by
  obtain ⟨pipeline, layout, vertexModule, fragmentModule, hget, hserial, hmade, htargets, hstate⟩ :=
    d.compile_suits hc hcompile
  obtain ⟨c', c'', mid, colors, depth, commands, hfirst, hparts, hmid, hencodes, hsecond, -⟩ :=
    RenderPass.build_parts hcolors hbuild
  have hc₁ : c₁.Reachable := hc.steps (d.compile_runs.of_eq_ok hcompile)
  have hc' : c'.Reachable := (hc₁.steps hsteps).steps hfirst
  have hlasting : Lasting c₁ mid :=
    Context.lasting_of_steps hc₁ ((hsteps.trans hfirst).trans hsecond)
  -- Only the pass itself is put into the trace after its attachments have been read.
  have hlog : Lasting c'' mid := hmid ▸ .device _
  obtain ⟨hshows, hshown⟩ := RenderPass.parts_shows hc' hparts
  have hrecorded := (RenderPass.parts_eq_ok hparts).lasting hlog
  have hview {texture : ResourceId} {layer : Nat} {v : View} (h : c''.Renders texture layer v) :
      mid.Renders texture layer v := by
    have hdevice : mid.device = c''.device.log (.renderPass r.label colors depth commands) :=
      congrArg Context.device hmid
    exact h.lasting hlog (hdevice ▸ .log _) (hdevice ▸ rfl)
  refine ⟨pipeline, layout, vertexModule, fragmentModule, mid, colors, depth, commands, hget, hmade,
    hencodes, ?_, RenderPass.agrees_of_suits ?_ ?_ ?_ ?_ hrecorded⟩
  · obtain ⟨serials, draw, -, -, hcommands⟩ := hrecorded.commands
    rw [hcommands, hserial]
    exact List.mem_cons_self
  · exact htargets.imp fun _ _ hs => hs.lasting hlasting
  · exact optionRel_imp hstate fun _ _ hs => hs.lasting hlasting
  · exact hshows.imp fun _ _ ⟨a, ha, hv⟩ => ⟨a, hlog.colorAttachment ha, hview hv⟩
  · exact optionRel_imp hshown fun _ _ ⟨a, ha, hv⟩ => ⟨a, hlog.depthAttachment ha, hview hv⟩

namespace DepthTarget

/-- A vertex shader without inputs, and a fragment shader with one output. -/
def code : ShaderModule where
  entryPoints := [
    { name := "corners", stage := .pipeline .vertex,
      result := some { type := .vector 4 ⟨.float, 4⟩, passing := .builtin } },
    { name := "shade", stage := .pipeline .fragment,
      result := some { type := .vector 4 ⟨.float, 4⟩, passing := .location 0 } }]

/-- Creates the shaders, a texture to render colours into, one of a depth or stencil format, and an
attachment on each of the two. -/
def setup (format : TextureFormat) : Work ResourceError Unit := do
  let _ ← Work.createShader .vertex { code := code, entryPoint := "corners" }
  let _ ← Work.createShader .fragment { code := code, entryPoint := "shade" }
  let _ ← Work.createTexture2d
    { width := 4, height := 4, format := some .rgba8Unorm, usage := { renderAttachment := true } }
  let _ ← Work.createTexture2d { width := 4, height := 4, format := some format }
  let _ ← Work.createColorAttachment
    { texture := ⟨3⟩, options := { clearColor := ⟨⟨0⟩, ⟨0⟩, ⟨0⟩, ⟨0⟩⟩ } }
  let _ ← Work.createDepthAttachment { texture := ⟨4⟩ }

/-- The context with these resources. -/
def context (format : TextureFormat) : Context := after (setup format) (.start {})

theorem reachable (format : TextureFormat) : (context format).Reachable := by
  refine Context.Reachable.runs ⟨.start {}, .refl⟩ ?_
  exact (Work.createShader_runs _ _).bind fun _ => (Work.createShader_runs _ _).bind fun _ =>
    (Work.createTexture2d_runs _).bind fun _ => (Work.createTexture2d_runs _).bind fun _ =>
    (Work.createColorAttachment_runs _).bind fun _ =>
    (Work.createDepthAttachment_runs _).bind fun _ => runs_pure ()

/-- A pass that renders into both attachments. -/
def pass : RenderDesc where
  vertexShader := some ⟨1⟩
  fragmentShader := some ⟨2⟩
  draw := .vertices 3 1
  colors := [⟨5⟩]
  depth := some ⟨6⟩

/-- The pipelines of a pass in a context, each with whether it writes depth. -/
def writes (r : RenderPass) (c : Context) : List (Option Bool) :=
  (c.pipelines.get? r.pipelineId).toList.map fun p => p.depthStencil.map (·.depthWrite)

/-- The passes in the encoder, each with whether its depth aspect is started from something. -/
def starts (c : Context) : List (Option Bool) := c.device.encoded.filterMap fun
  | .renderPass _ _ depth _ => some (depth.map fun p => p.depth.isSome)
  | _ => none

/-- Compiles and records the pass, and yields what its pipeline writes and what it starts from. -/
def recorded : Work CompileError (List ResourceId × List (Option Bool) × List (Option Bool)) := do
  let r ← pass.compile
  (r.build : Work ResourceError Unit)
  let c ← Work.context
  return (r.colors, writes r c, starts c)

theorem recorded_eq_ok {c : Context} {colors : List ResourceId} {w s : List (Option Bool)}
    (h : outcome recorded c = .ok (colors, w, s)) : ∃ r c₁ c₂, pass.compile c = .ok r c₁ ∧
      r.build c₁ = .ok () c₂ ∧ r.colors = colors ∧ writes r c₂ = w ∧ starts c₂ = s := by
  obtain ⟨r, c₁, hcompile, h⟩ := bind_eq_ok (eq_ok_of_outcome h)
  obtain ⟨u, c₂, hbuild, h⟩ := bind_eq_ok h
  rw [context_bind] at h
  cases h
  exact ⟨r, c₁, _, hcompile, lift_eq_ok.1 hbuild, rfl, rfl, rfl⟩

end DepthTarget

/-- A pass with a depth attachment that is not read only agrees with its pipeline. -/
theorem compatible_depthTarget : ∃ r c₁ c₂ pipeline mid colors depth commands,
    DepthTarget.pass.compile (DepthTarget.context .depth32Float) = .ok r c₁ ∧
    r.build c₁ = .ok () c₂ ∧ c₁.pipelines.get? r.pipelineId = some pipeline ∧
    c₁.Encodes mid (.renderPass r.label colors depth commands) ∧
    r.Agrees pipeline mid colors depth ∧ DepthTarget.writes r c₂ = [some true] ∧
    DepthTarget.starts c₂ = [some true] := by
  have hout : outcome DepthTarget.recorded (DepthTarget.context .depth32Float) =
      .ok ([⟨5⟩], [some true], [some true]) := by
    decide +kernel
  obtain ⟨r, c₁, c₂, hcompile, hbuild, hcolors, hwrites, hstarts⟩ := DepthTarget.recorded_eq_ok hout
  have hne : r.colors ≠ [] := hcolors ▸ List.cons_ne_nil _ _
  obtain ⟨pipeline, layout, vertexModule, fragmentModule, mid, colors, depth, commands, hget, -,
    hencodes, -, hagrees⟩ :=
    compatible_spec (DepthTarget.reachable _) hcompile .refl hne hbuild
  exact ⟨r, c₁, c₂, pipeline, mid, colors, depth, commands, hcompile, hbuild, hget, hencodes, hagrees,
    hwrites, hstarts⟩

/-- With the options that an attachment has by default, the pipeline of a pass with a stencil texture
writes depth, although the texture has none and the pass starts no depth aspect from anything. -/
theorem exists_depthWrite_stencil : ∃ r c₁ c₂ pipeline state label colors depth commands,
    DepthTarget.pass.compile (DepthTarget.context .stencil8) = .ok r c₁ ∧
    r.build c₁ = .ok () c₂ ∧ r.colors ≠ [] ∧ c₂.pipelines.get? r.pipelineId = some pipeline ∧
    pipeline.depthStencil = some state ∧ state.depthWrite = true ∧
    .renderPass label colors (some depth) commands ∈ c₂.device.encoded ∧ depth.depth = none := by
  have hout : outcome DepthTarget.recorded (DepthTarget.context .stencil8) =
      .ok ([⟨5⟩], [some true], [some false]) := by
    decide +kernel
  obtain ⟨r, c₁, c₂, hcompile, hbuild, hcolors, hwrites, hstarts⟩ := DepthTarget.recorded_eq_ok hout
  have hne : r.colors ≠ [] := hcolors ▸ List.cons_ne_nil _ _
  have hwrite : some true ∈ DepthTarget.writes r c₂ := by
    rw [hwrites]
    exact List.mem_singleton_self _
  have hstart : some false ∈ DepthTarget.starts c₂ := by
    rw [hstarts]
    exact List.mem_singleton_self _
  obtain ⟨pipeline, hget, hstate⟩ := List.mem_map.1 hwrite
  obtain ⟨state, hstate, hdepthWrite⟩ := Option.map_eq_some_iff.1 hstate
  obtain ⟨e, he, hevent⟩ := List.mem_filterMap.1 hstart
  cases e with
  | renderPass label colors depth commands =>
    obtain ⟨pass, rfl, hpass⟩ := Option.map_eq_some_iff.1 (Option.some.inj hevent)
    have hnone : pass.depth = none := by simpa using hpass
    exact ⟨r, c₁, c₂, pipeline, state, label, colors, pass, commands, hcompile, hbuild, hne,
      Option.mem_toList.1 hget, hstate, hdepthWrite, he, hnone⟩
  | _ => cases hevent

end PassForge
