import Mathlib
import PassForge.Proofs.Context.Durable
import PassForge.Proofs.Pass.Encoding
import PassForge.Proofs.Pass.MipChain

/-!
# Recording a pass again

Whatever happens to a context between two recordings of a pass, both record the same.

* `Context.RecordsColor` and `Context.RecordsDepth` say what an attachment is recorded as;
  `RenderPass.Records` and `ComputePass.Records` say so of the commands. All of them last
  (`RenderPass.Records.lasting` and the like), and determine what is recorded but for views of surface
  textures (`RecordsColor.same`, `RenderPass.Records.eq`).
* `RenderPass.build_records`, `ComputePass.build_records`: a recording does what they say.
* `replay_spec` is the whole statement.
-/

namespace PassForge

open Context (Arrange Refresh Lasting Step)
open Relation (ReflTransGen)

variable {c c' : Context} {id : ResourceId}

/-! ## What lasts -/

section Lasts

variable {buffers buffers' : Store Buffer} (h : buffers.Lasts (Becomes Buffer.Step) buffers')

include h in
theorem Store.DeviceBuffer.lasts {serial : Nat} (hb : buffers.DeviceBuffer id serial) :
    buffers'.DeviceBuffer id serial := by
  obtain ⟨b, hb, hs⟩ := hb
  obtain ⟨b', hb', hbecomes⟩ := h id b hb
  exact ⟨b', hb', hbecomes.keeps (P := fun b => b.device = some serial)
    (fun _ _ hl => hl.device) hs⟩

include h in
theorem Draw.Records.lasts {d : Draw} {commands : List RenderCommand}
    (hd : d.Records buffers commands) : d.Records buffers' commands := by
  cases hd with
  | vertices => exact .vertices
  | @indexed index instances serial b hb hs =>
    obtain ⟨b', hb', hbecomes⟩ := h _ b hb
    have hfixed : b'.fixed = b.fixed := hbecomes.eq fun _ _ hl => hl.fixed
    have hsize : b'.size = b.size := (congrArg Buffer.size hfixed :)
    rw [← hsize]
    exact .indexed hb' (hbecomes.keeps (P := fun b => b.device = some serial)
      (fun _ _ hl => hl.device) hs)
  | indirect ha => exact .indirect (ha.lasts h)
  | indexedIndirect hi ha => exact .indexedIndirect (hi.lasts h) (ha.lasts h)
  | multiIndirect ha => exact .multiIndirect (ha.lasts h)
  | multiIndexedIndirect hi ha => exact .multiIndexedIndirect (hi.lasts h) (ha.lasts h)

include h in
theorem Dispatch.Records.lasts {d : Dispatch} {command : ComputeCommand}
    (hd : d.Records buffers command) : d.Records buffers' command := by
  cases hd with
  | workgroups => exact .workgroups
  | indirect ha => exact .indirect (ha.lasts h)

end Lasts

theorem RenderPass.Records.lasting {r : RenderPass} {commands : List RenderCommand}
    (h : r.Records c commands) (hc : Lasting c c') : r.Records c' commands := by
  obtain ⟨serials, draw, hserials, hdraw, heq⟩ := h
  exact ⟨serials, draw, hserials.imp fun _ _ hs => hs.lasts (hc .buffers),
    hdraw.lasts (hc .buffers), heq⟩

theorem ComputePass.Records.lasting {r : ComputePass} {commands : List ComputeCommand}
    (h : r.Records c commands) (hc : Lasting c c') : r.Records c' commands := by
  obtain ⟨dispatch, hdispatch, heq⟩ := h
  exact ⟨dispatch, hdispatch.lasts (hc .buffers), heq⟩

/-! ## What determines the commands -/

section Determined

variable {buffers : Store Buffer}

theorem Store.DeviceBuffer.eq {serial serial' : Nat} (h : buffers.DeviceBuffer id serial)
    (h' : buffers.DeviceBuffer id serial') : serial = serial' := by
  obtain ⟨b, hb, hs⟩ := h
  obtain ⟨b', hb', hs'⟩ := h'
  cases hb.symm.trans hb'
  exact Option.some.inj (hs.symm.trans hs')

theorem Draw.Records.eq {d : Draw} {commands commands' : List RenderCommand}
    (h : d.Records buffers commands) (h' : d.Records buffers commands') : commands = commands' := by
  cases h with
  | vertices =>
    cases h'
    rfl
  | indexed hb hs =>
    cases h' with
    | indexed hb' hs' =>
      cases hb.symm.trans hb'
      cases hs.symm.trans hs'
      rfl
  | indirect ha =>
    cases h' with
    | indirect ha' => rw [ha.eq ha']
  | indexedIndirect hi ha =>
    cases h' with
    | indexedIndirect hi' ha' => rw [hi.eq hi', ha.eq ha']
  | multiIndirect ha =>
    cases h' with
    | multiIndirect ha' => rw [ha.eq ha']
  | multiIndexedIndirect hi ha =>
    cases h' with
    | multiIndexedIndirect hi' ha' => rw [hi.eq hi', ha.eq ha']

theorem Dispatch.Records.eq {d : Dispatch} {command command' : ComputeCommand}
    (h : d.Records buffers command) (h' : d.Records buffers command') : command = command' := by
  cases h with
  | workgroups =>
    cases h'
    rfl
  | indirect ha =>
    cases h' with
    | indirect ha' => rw [ha.eq ha']

end Determined

theorem RenderPass.Records.eq {r : RenderPass} {commands commands' : List RenderCommand}
    (h : r.Records c commands) (h' : r.Records c commands') : commands = commands' := by
  obtain ⟨serials, draw, hserials, hdraw, rfl⟩ := h
  obtain ⟨serials', draw', hserials', hdraw', rfl⟩ := h'
  have hserial : Relator.RightUnique c.buffers.DeviceBuffer := fun _ _ _ h h' => h.eq h'
  rw [hserial.forall₂ hserials hserials', hdraw.eq hdraw']

theorem ComputePass.Records.eq {r : ComputePass} {commands commands' : List ComputeCommand}
    (h : r.Records c commands) (h' : r.Records c commands') : commands = commands' := by
  obtain ⟨dispatch, hdispatch, rfl⟩ := h
  obtain ⟨dispatch', hdispatch', rfl⟩ := h'
  rw [hdispatch.eq hdispatch']

/-! ## Attachments -/

namespace Context

variable {texture : ResourceId} {layer : Nat} {v v' : View}

/-- A texture stands for the surface. -/
def IsSurface (c : Context) (texture : ResourceId) : Prop :=
  ∃ t, c.textures.get? texture = some t ∧ t.kind = .surface

/-- A view for rendering into a layer of a texture: the one that the texture keeps, or any view of
the surface. -/
def Attached (c : Context) (texture : ResourceId) (layer : Nat) (v : View) : Prop :=
  ∃ t, c.textures.get? texture = some t ∧
    (t.kind = .surface ∨ t.targetViews.lookup layer = some v)

theorem Attached.lasting (h : c.Attached texture layer v) (hc : Lasting c c') :
    c'.Attached texture layer v := by
  obtain ⟨t, ht, hv⟩ := h
  obtain ⟨t', ht', hbecomes⟩ := hc.texture ht
  have hfixed : t'.fixed = t.fixed := hbecomes.eq fun _ _ hl => hl.fixed
  refine ⟨t', ht', hv.imp (fun hk => ?_) fun hv => ?_⟩
  · exact (congrArg Texture.kind hfixed :).trans hk
  · exact hbecomes.keeps (P := fun t => t.targetViews.lookup layer = some v)
      (fun _ _ hl => hl.lookup) hv

theorem Attached.eq (h : c.Attached texture layer v) (h' : c.Attached texture layer v') :
    c.IsSurface texture ∨ v' = v := by
  obtain ⟨t, ht, hv⟩ := h
  obtain ⟨t', ht', hv'⟩ := h'
  cases ht.symm.trans ht'
  obtain hk | hv := hv
  · exact .inl ⟨t, ht, hk⟩
  · obtain hk | hv' := hv'
    · exact .inl ⟨t, ht, hk⟩
    · exact .inr (Option.some.inj (hv'.symm.trans hv))

/-- The view that samples are resolved into, if there is a texture for it. -/
inductive Resolved (c : Context) : Option ResourceId → Option View → Prop
  | none : Resolved c none none
  | some {target : ResourceId} {v : View} (h : c.Attached target 0 v) :
      Resolved c (some target) (some v)

theorem Resolved.lasting {target : Option ResourceId} {resolve : Option View}
    (h : c.Resolved target resolve) (hc : Lasting c c') : c'.Resolved target resolve := by
  cases h with
  | none => exact .none
  | some hv => exact .some (hv.lasting hc)

/-- Two views that samples are resolved into are the same unless they are of a surface texture. -/
def SameResolved (c : Context) (target : Option ResourceId) (resolve resolve' : Option View) : Prop :=
  resolve'.isSome = resolve.isSome ∧
    ((∃ texture, target = some texture ∧ c.IsSurface texture) ∨ resolve' = resolve)

theorem Resolved.same {target : Option ResourceId} {resolve resolve' : Option View}
    (h : c.Resolved target resolve) (h' : c.Resolved target resolve') :
    c.SameResolved target resolve resolve' := by
  cases h with
  | none =>
    cases h'
    exact ⟨rfl, .inr rfl⟩
  | some hv =>
    cases h' with
    | some hv' =>
      exact ⟨rfl, (hv.eq hv').imp (fun hsurface => ⟨_, rfl, hsurface⟩) (congrArg Option.some)⟩

/-- What a colour attachment is recorded as. -/
def RecordsColor (c : Context) (id : ResourceId) (p : ColorPass) : Prop :=
  ∃ a, c.colorAttachments.get? id = some a ∧ c.Attached a.texture a.layer p.view ∧
    c.Resolved a.resolve p.resolve ∧ p.load = a.options.load.op a.options.clearColor

/-- What a depth-stencil attachment is recorded as. -/
def RecordsDepth (c : Context) (id : ResourceId) (p : DepthPass) : Prop :=
  ∃ a t, c.depthAttachments.get? id = some a ∧ c.textures.get? a.texture = some t ∧
    c.Attached a.texture 0 p.view ∧ p.depth = a.depthOp t ∧ p.stencil = a.stencilOp t

/-- Two recordings of a colour attachment are the same but for views of surface textures. -/
def SameColor (c : Context) (id : ResourceId) (p p' : ColorPass) : Prop :=
  ∃ a, c.colorAttachments.get? id = some a ∧ (c.IsSurface a.texture ∨ p'.view = p.view) ∧
    c.SameResolved a.resolve p.resolve p'.resolve ∧ p'.load = p.load

/-- Two recordings of a depth-stencil attachment are the same but for a view of a surface texture. -/
def SameDepth (c : Context) (id : ResourceId) (p p' : DepthPass) : Prop :=
  ∃ a, c.depthAttachments.get? id = some a ∧ (c.IsSurface a.texture ∨ p'.view = p.view) ∧
    p'.depth = p.depth ∧ p'.stencil = p.stencil

theorem RecordsColor.lasting {p : ColorPass} (h : c.RecordsColor id p) (hc : Lasting c c') :
    c'.RecordsColor id p := by
  obtain ⟨a, ha, hview, hresolve, hload⟩ := h
  exact ⟨a, hc.colorAttachment ha, hview.lasting hc, hresolve.lasting hc, hload⟩

theorem RecordsDepth.lasting {p : DepthPass} (h : c.RecordsDepth id p) (hc : Lasting c c') :
    c'.RecordsDepth id p := by
  obtain ⟨a, t, ha, ht, hview, hdepth, hstencil⟩ := h
  obtain ⟨t', ht', hfixed⟩ := hc.fixedTexture ht
  have hformat : t'.format = t.format := (congrArg Texture.format hfixed :)
  refine ⟨a, t', hc.depthAttachment ha, ht', hview.lasting hc, ?_, ?_⟩
  · simp only [hdepth, DepthAttachment.depthOp, hformat]
  · simp only [hstencil, DepthAttachment.stencilOp, hformat]

theorem RecordsColor.same {p p' : ColorPass} (h : c.RecordsColor id p)
    (h' : c.RecordsColor id p') : c.SameColor id p p' := by
  obtain ⟨a, ha, hview, hresolve, hload⟩ := h
  obtain ⟨a', ha', hview', hresolve', hload'⟩ := h'
  cases ha.symm.trans ha'
  exact ⟨a, ha, hview.eq hview', hresolve.same hresolve', hload'.trans hload.symm⟩

theorem RecordsDepth.same {p p' : DepthPass} (h : c.RecordsDepth id p)
    (h' : c.RecordsDepth id p') : c.SameDepth id p p' := by
  obtain ⟨a, t, ha, ht, hview, hdepth, hstencil⟩ := h
  obtain ⟨a', t', ha', ht', hview', hdepth', hstencil'⟩ := h'
  cases ha.symm.trans ha'
  cases ht.symm.trans ht'
  exact ⟨a, ha, hview.eq hview', hdepth'.trans hdepth.symm, hstencil'.trans hstencil.symm⟩

end Context

/-! ## Recordings -/

theorem Context.Arrange.lasting (h : Arrange c c') : Lasting c c' := by
  cases h with
  | buffer h hl => exact .put .buffers h (Becomes.single (Buffer.Step.use hl))
  | texture h hl => exact .put .textures h (Becomes.single hl.step)

theorem Context.lasting_of_arranges (h : ReflTransGen Arrange c c') : Lasting c c' := by
  induction h with
  | refl => exact .refl
  | tail _ h ih => exact ih.trans h.lasting

theorem Work.targetView_eq_ok {texture : ResourceId} {layer : Nat} {v : View}
    (h : Work.targetView texture layer c = .ok v c') : c'.Attached texture layer v := by
  rw [Work.targetView_eq] at h
  obtain ⟨t, l, ht, hl, rfl⟩ := on_eq_ok h
  exact ⟨l.object, @Shelf.get?_put _ .textures _ c texture t l ht,
    (Texture.attachView_eq_ok hl).imp And.left And.right⟩

/-- Reading a colour attachment reads the view of its texture, and then the view that samples are
resolved into if it has a texture for that. -/
theorem Work.colorPass_cases {p : ColorPass} (h : Work.colorPass id c = .ok p c') :
    ∃ a c₁, c.colorAttachments.get? id = some a ∧
      Work.targetView a.texture a.layer c = .ok p.view c₁ ∧
      p.load = a.options.load.op a.options.clearColor ∧
      ((a.resolve = none ∧ p.resolve = none ∧ c' = c₁) ∨
        ∃ target v, a.resolve = some target ∧ p.resolve = some v ∧
          Work.targetView target 0 c₁ = .ok v c') := by
  obtain ⟨a, c₁, hfind, h₁⟩ := bind_eq_ok h
  obtain ⟨v, c₂, hview, h₂⟩ := bind_eq_ok h₁
  obtain ⟨ha, rfl⟩ := get?_of_find hfind
  cases hr : a.resolve with
  | none =>
    rw [hr] at h₂
    cases h₂
    exact ⟨a, c', ha, hview, rfl, .inl ⟨hr, rfl, rfl⟩⟩
  | some target =>
    rw [hr] at h₂
    obtain ⟨resolve, c₃, hmap, hpure⟩ := bind_eq_ok h₂
    cases hpure
    rw [map_eq_pure_bind] at hmap
    obtain ⟨v', c₄, hv', hpure⟩ := bind_eq_ok hmap
    cases hpure
    exact ⟨a, c₂, ha, hview, rfl, .inr ⟨target, v', hr, rfl, hv'⟩⟩

/-- Reading a depth-stencil attachment reads the view of its texture. -/
theorem Work.depthPass_cases {p : DepthPass} (h : Work.depthPass id c = .ok p c') :
    ∃ a t, c.depthAttachments.get? id = some a ∧ Work.targetView a.texture 0 c = .ok p.view c' ∧
      c'.textures.get? a.texture = some t ∧ p.depth = a.depthOp t ∧ p.stencil = a.stencilOp t := by
  obtain ⟨a, c₁, hfind, h₁⟩ := bind_eq_ok h
  obtain ⟨v, c₂, hview, h₂⟩ := bind_eq_ok h₁
  obtain ⟨t, c₃, htexture, hpure⟩ := bind_eq_ok h₂
  cases hpure
  obtain ⟨ha, rfl⟩ := get?_of_find hfind
  obtain ⟨ht, rfl⟩ := get?_of_find htexture
  exact ⟨a, t, ha, hview, ht, rfl, rfl⟩

theorem Work.lasting_of_targetView {texture : ResourceId} {layer : Nat} {v : View}
    (h : Work.targetView texture layer c = .ok v c') : Lasting c c' :=
  Context.lasting_of_arranges ((Work.targetView_arranges _ _).of_eq_ok h)

theorem Work.colorPass_eq_ok {p : ColorPass} (h : Work.colorPass id c = .ok p c') :
    c'.RecordsColor id p := by
  obtain ⟨a, c₁, ha, hview, hload, hrest⟩ := Work.colorPass_cases h
  have hattached := Work.targetView_eq_ok hview
  have ha' := (Work.lasting_of_targetView hview).colorAttachment ha
  obtain ⟨hr, hp, rfl⟩ | ⟨target, v, hr, hp, hresolve⟩ := hrest
  · exact ⟨a, ha', hattached, by rw [hr, hp]; exact .none, hload⟩
  · have hlasting := Work.lasting_of_targetView hresolve
    refine ⟨a, hlasting.colorAttachment ha', hattached.lasting hlasting, ?_, hload⟩
    rw [hr, hp]
    exact .some (Work.targetView_eq_ok hresolve)

theorem Work.depthPass_eq_ok {p : DepthPass} (h : Work.depthPass id c = .ok p c') :
    c'.RecordsDepth id p := by
  obtain ⟨a, t, ha, hview, ht, hdepth, hstencil⟩ := Work.depthPass_cases h
  have ha' := (Work.lasting_of_targetView hview).depthAttachment ha
  exact ⟨a, t, ha', ht, Work.targetView_eq_ok hview, hdepth, hstencil⟩

namespace RenderPass

variable {r : RenderPass} {colors colors' : List ColorPass} {depth depth' : Option DepthPass}
  {commands commands' : List RenderCommand} {u : Unit}

/-- What a pass is recorded with: its colour attachments, its depth-stencil attachment and its
commands. -/
structure RecordedAs (r : RenderPass) (c : Context) (colors : List ColorPass)
    (depth : Option DepthPass) (commands : List RenderCommand) : Prop where
  colors : List.Forall₂ c.RecordsColor r.colors colors
  depth : Option.Rel c.RecordsDepth r.depth depth
  commands : r.Records c commands

theorem RecordedAs.lasting (h : r.RecordedAs c colors depth commands) (hc : Lasting c c') :
    r.RecordedAs c' colors depth commands where
  colors := h.colors.imp fun _ _ hp => hp.lasting hc
  depth := optionRel_imp h.depth fun _ _ hp => hp.lasting hc
  commands := h.commands.lasting hc

theorem depth_eq_ok (h : r.depth.mapM Work.depthPass c = .ok depth c') :
    Option.Rel c'.RecordsDepth r.depth depth ∧ Lasting c c' := by
  generalize r.depth = id at h
  cases id with
  | none =>
    cases h
    exact ⟨.none, .refl⟩
  | some id =>
    replace h : (some <$> Work.depthPass id) c = .ok depth c' := h
    rw [map_eq_pure_bind] at h
    obtain ⟨p, c₁, hp, hpure⟩ := bind_eq_ok h
    cases hpure
    exact ⟨.some (Work.depthPass_eq_ok hp),
      Context.lasting_of_arranges ((Work.depthPass_arranges id).of_eq_ok hp)⟩

theorem parts_eq_ok (h : r.parts c = .ok (colors, depth, commands) c') :
    r.RecordedAs c' colors depth commands := by
  obtain ⟨colors, c₁, hcolors, h⟩ := bind_eq_ok h
  obtain ⟨depth, c₂, hdepth, h⟩ := bind_eq_ok h
  obtain ⟨commands, c₃, hcommands, h⟩ := bind_eq_ok h
  cases h
  have hrecorded : List.Forall₂ c₁.RecordsColor r.colors colors :=
    forall₂_of_mapM (I := fun _ => True) (P := fun id p c => c.RecordsColor id p)
      Work.colorPass_arranges (fun _ _ _ _ => trivial)
      (fun _ _ _ _ hc h => h.lasting (Context.lasting_of_arranges hc))
      (fun _ _ _ _ _ _ h => Work.colorPass_eq_ok h) trivial hcolors
  obtain ⟨hdepth, hsecond⟩ := depth_eq_ok hdepth
  have hthird := Context.lasting_of_arranges (r.commands_arranges.of_eq_ok hcommands)
  exact ⟨hrecorded.imp fun _ _ hp => hp.lasting (hsecond.trans hthird),
    optionRel_imp hdepth fun _ _ hp => hp.lasting hthird, commands_records hcommands⟩

/-- A pass with colour attachments is recorded by reading its parts once everything is up to date. -/
theorem build_parts (hcolors : r.colors ≠ []) (h : r.build c = .ok u c') :
    ∃ c₁ c₂ mid colors depth commands, ReflTransGen Step c c₁ ∧
      r.parts c₁ = .ok (colors, depth, commands) c₂ ∧
      mid = { c₂ with device := c₂.device.log (.renderPass r.label colors depth commands) } ∧
      c.Encodes mid (.renderPass r.label colors depth commands) ∧ ReflTransGen Step c₁ mid ∧
      ReflTransGen Step mid c' := by
  have hrefresh (p : SyncPoint) (c c' : Context) : Refresh p c c' → Step c c' := Refresh.step
  rw [build_of_ne hcolors] at h
  obtain ⟨v, c₁, hbefore, h⟩ := bind_eq_ok h
  obtain ⟨w, mid, hencode, hafter⟩ := bind_eq_ok h
  have hfirst := (r.sync.run_within hrefresh .before).of_eq_ok hbefore
  have hlast := (r.sync.run_within hrefresh .after).of_eq_ok hafter
  rw [encode_eq] at hencode
  obtain ⟨⟨colors, depth, commands⟩, c₂, hparts, hlog⟩ := bind_eq_ok hencode
  cases hlog
  have harrange := r.parts_arranges.of_eq_ok hparts
  refine ⟨c₁, c₂, _, colors, depth, commands, hfirst, hparts, rfl,
    .of_synced (SyncPlan.run_synced hbefore) harrange _, ?_, hlast⟩
  exact (ReflTransGen.mono (fun _ _ => Arrange.step) _ _ harrange).tail (.encode rfl)

/-- What recording a pass with colour attachments does, up to and with its pass and after it. -/
theorem build_records (hcolors : r.colors ≠ []) (h : r.build c = .ok u c') :
    ∃ mid colors depth commands, c.Encodes mid (.renderPass r.label colors depth commands) ∧
      r.RecordedAs mid colors depth commands ∧ ReflTransGen Step c mid ∧
      ReflTransGen Step mid c' := by
  obtain ⟨c₁, c₂, mid, colors, depth, commands, hfirst, hparts, rfl, hencodes, hsecond, hlast⟩ :=
    build_parts hcolors h
  exact ⟨_, colors, depth, commands, hencodes, (parts_eq_ok hparts).lasting (.device _),
    hfirst.trans hsecond, hlast⟩

/-- Two recordings of the attachments of a pass are the same but for views of surface textures. -/
structure SameTargets (r : RenderPass) (c : Context) (colors colors' : List ColorPass)
    (depth depth' : Option DepthPass) : Prop where
  length : colors.length = r.colors.length ∧ colors'.length = r.colors.length
  noDepth : r.depth = none → depth = none ∧ depth' = none
  sameColors : ∀ (i : Nat) (id : ResourceId), r.colors[i]? = some id →
    ∃ p p', colors[i]? = some p ∧ colors'[i]? = some p' ∧ c.SameColor id p p'
  sameDepth : ∀ id, r.depth = some id →
    ∃ p p', depth = some p ∧ depth' = some p' ∧ c.SameDepth id p p'

theorem RecordedAs.sameTargets (h : r.RecordedAs c colors depth commands)
    (h' : r.RecordedAs c colors' depth' commands') : r.SameTargets c colors colors' depth depth' where
  sameColors i id hid := by
    obtain ⟨hi, rfl⟩ := List.getElem?_eq_some_iff.1 hid
    have hlength := h.colors.length_eq
    have hlength' := h'.colors.length_eq
    refine ⟨colors[i], colors'[i], by simp, by simp, ?_⟩
    exact (h.colors.get hi (by omega)).same (h'.colors.get hi (by omega))
  length := ⟨h.colors.length_eq.symm, h'.colors.length_eq.symm⟩
  sameDepth id hid := by
    have hdepth := h.depth
    have hdepth' := h'.depth
    rw [hid] at hdepth hdepth'
    cases hdepth with
    | some hp =>
      cases hdepth' with
      | some hp' => exact ⟨_, _, rfl, rfl, hp.same hp'⟩
  noDepth hnone := by
    have hdepth := h.depth
    have hdepth' := h'.depth
    rw [hnone] at hdepth hdepth'
    cases hdepth
    cases hdepth'
    exact ⟨rfl, rfl⟩

/-- Whatever happens between two recordings of a pass, they record the same. -/
theorem records_again {c₁ c₁' c₂ c₂' : Context} {u' : Unit} (hc : c₁.Reachable)
    (hcolors : r.colors ≠ []) (h₁ : r.build c₁ = .ok u c₁') (h : ReflTransGen Step c₁' c₂)
    (h₂ : r.build c₂ = .ok u' c₂') :
    ∃ mid₁ mid₂ colors₁ colors₂ depth₁ depth₂ commands,
      c₁.Encodes mid₁ (.renderPass r.label colors₁ depth₁ commands) ∧
      c₂.Encodes mid₂ (.renderPass r.label colors₂ depth₂ commands) ∧
      r.Records mid₁ commands ∧ r.SameTargets mid₂ colors₁ colors₂ depth₁ depth₂ := by
  obtain ⟨mid₁, colors₁, depth₁, commands₁, hencodes₁, hrecorded₁, hto₁, hfrom₁⟩ :=
    build_records hcolors h₁
  obtain ⟨mid₂, colors₂, depth₂, commands₂, hencodes₂, hrecorded₂, hto₂, -⟩ :=
    build_records hcolors h₂
  have hlasting := Context.lasting_of_steps (hc.steps hto₁) ((hfrom₁.trans h).trans hto₂)
  obtain rfl := (hrecorded₁.commands.lasting hlasting).eq hrecorded₂.commands
  exact ⟨mid₁, mid₂, colors₁, colors₂, depth₁, depth₂, commands₁, hencodes₁, hencodes₂,
    hrecorded₁.commands, (hrecorded₁.lasting hlasting).sameTargets hrecorded₂⟩

end RenderPass

namespace ComputePass

variable {r : ComputePass} {u : Unit}

/-- What recording a pass does, up to and with its pass and after it, if its hook takes steps. -/
theorem build_records (hhook : ∀ hook, r.hook = some hook → Runs Step hook)
    (h : r.build c = .ok u c') : ∃ mid commands, c.Encodes mid (.computePass r.label commands) ∧
      r.Records mid commands ∧ ReflTransGen Step c mid ∧ ReflTransGen Step mid c' := by
  have hrefresh (p : SyncPoint) (c c' : Context) : Refresh p c c' → Step c c' := Refresh.step
  obtain ⟨v, c₁, hbefore, h⟩ := bind_eq_ok h
  obtain ⟨w, mid, hencode, h⟩ := bind_eq_ok h
  have hfirst := (r.sync.run_within hrefresh .before).of_eq_ok hbefore
  have hsecond := (r.encode_within (fun _ _ => Arrange.step) fun _ _ => .encode).of_eq_ok hencode
  have hrest : Runs Step (r.runHook >>= fun _ => r.sync.run .after) :=
    (r.runHook_within (fun _ => .callHook) hhook).bind fun _ => r.sync.run_within hrefresh .after
  obtain ⟨commands, hencodes, hrecords⟩ := encodes hbefore hencode
  exact ⟨mid, commands, hencodes, hrecords, hfirst.trans hsecond, hrest.of_eq_ok h⟩

/-- Whatever happens between two recordings of a pass, they record the same. -/
theorem records_again {c₁ c₁' c₂ c₂' : Context} {u' : Unit} (hc : c₁.Reachable)
    (hhook : ∀ hook, r.hook = some hook → Runs Step hook) (h₁ : r.build c₁ = .ok u c₁')
    (h : ReflTransGen Step c₁' c₂) (h₂ : r.build c₂ = .ok u' c₂') :
    ∃ mid₁ mid₂ commands, c₁.Encodes mid₁ (.computePass r.label commands) ∧
      c₂.Encodes mid₂ (.computePass r.label commands) ∧ r.Records mid₁ commands := by
  obtain ⟨mid₁, commands₁, hencodes₁, hrecords₁, hto₁, hfrom₁⟩ := build_records hhook h₁
  obtain ⟨mid₂, commands₂, hencodes₂, hrecords₂, hto₂, -⟩ := build_records hhook h₂
  have hlasting := Context.lasting_of_steps (hc.steps hto₁) ((hfrom₁.trans h).trans hto₂)
  obtain rfl := (hrecords₁.lasting hlasting).eq hrecords₂
  exact ⟨mid₁, mid₂, commands₁, hencodes₁, hencodes₂, hrecords₁⟩

end ComputePass

/-! ## Bind groups -/

theorem makeBindGroups_lt {table : UniformTable} {layouts : List GroupLayout} {groups : List Nat}
    (h : makeBindGroups table layouts c = .ok groups c') : ∀ g ∈ groups, g < c'.device.nextSerial := by
  have hall := forall₂_of_mapM (I := fun _ => True)
    (P := fun _ g c => g < c.device.nextSerial) makeBindGroup_touches (fun _ _ _ _ => trivial)
    (fun _ _ _ _ hc hlt => Nat.lt_of_lt_of_le hlt (Context.nextSerial_le hc)) (fun l _ s g s' _ hg => ?_) trivial h
  · intro g hg
    obtain ⟨i, hi, rfl⟩ := List.getElem_of_mem hg
    exact hall.get (hall.length_eq ▸ hi) hi
  · obtain ⟨entries, c₁, -, h₁⟩ := bind_eq_ok hg
    split at h₁
    · cases h₁
    · cases h₁
      exact Nat.lt_succ_self _

/-- The serials of the bind groups of a pass are taken. -/
theorem BindsUniforms.lt {label : Option String} {stages : List ShaderInterface}
    {table : UniformTable} {layouts : List GroupLayout} {layout : Nat} {groups : List Nat}
    (h : BindsUniforms label stages table layouts layout groups c c') :
    ∀ g ∈ groups, g < c'.device.nextSerial := by
  obtain ⟨c₁, c₂, -, -, hgroups⟩ := h
  exact makeBindGroups_lt hgroups

/-- What a device has made bind groups for is what it binds. -/
theorem BoundGroup.Made.bound_ne_nil {g : BoundGroup} {d : Device} (h : g.Made d) :
    d.bound g.serial ≠ [] := by
  obtain ⟨layout, hmade⟩ := h.event
  exact List.ne_nil_of_mem (List.mem_filterMap.2 ⟨_, hmade, if_pos rfl⟩)

theorem RenderDesc.compile_bound {d : RenderDesc} {r : RenderPass} (hc : c.Reachable)
    (h : d.compile c = .ok r c') :
    ∀ g ∈ r.bindGroups, g < c'.device.nextSerial ∧ c'.device.bound g ≠ [] := by
  obtain ⟨_, _, _, _, _, groups, -, -, -, -, -, hserials, hmips⟩ := compile_bindsMips hc h
  obtain ⟨p, c₁, hp, hf⟩ := bind_eq_ok h
  obtain ⟨-, -, -, _, _, _, _, _, -, -, hbinds⟩ := prepare_eq_ok hp
  have hfinish := (d.finish_installs p).of_eq_ok hf
  have hrenews := Context.renews_of_steps
    (ReflTransGen.mono (fun _ _ => Context.Install.step) _ _ hfinish)
  intro g hg
  refine ⟨Nat.lt_of_lt_of_le (hbinds.lt g ((finish_eq_ok hf).2.1 ▸ hg)) hrenews.nextSerial, ?_⟩
  obtain ⟨b, hb, rfl⟩ := List.mem_map.1 (hserials ▸ hg)
  exact (hmips.made b hb).bound_ne_nil

theorem ComputeDesc.compile_bound {d : ComputeDesc} {r : ComputePass} (hc : c.Reachable)
    (h : d.compile c = .ok r c') :
    ∀ g ∈ r.bindGroups, g < c'.device.nextSerial ∧ c'.device.bound g ≠ [] := by
  obtain ⟨_, _, _, groups, -, -, -, hserials, hmips⟩ := compile_bindsMips hc h
  obtain ⟨p, c₁, hp, hf⟩ := bind_eq_ok h
  obtain ⟨-, -, _, _, _, -, hbinds⟩ := prepare_eq_ok hp
  have hfinish := (d.finish_installs p).of_eq_ok hf
  have hrenews := Context.renews_of_steps
    (ReflTransGen.mono (fun _ _ => Context.Install.step) _ _ hfinish)
  intro g hg
  refine ⟨Nat.lt_of_lt_of_le (hbinds.lt g ((finish_eq_ok hf).1 ▸ hg)) hrenews.nextSerial, ?_⟩
  obtain ⟨b, hb, rfl⟩ := List.mem_map.1 (hserials ▸ hg)
  exact (hmips.made b hb).bound_ne_nil

/-- **A compiled pass always records the same.** Compile a pass, do anything with the context, record
the pass, do anything again and record it once more. If both recordings succeed, they put passes with
one and the same list of commands into the encoder: the pipeline, the device buffer of every slot, the
bind groups, the index buffer and the draw or the dispatch are the same. Each bind group still binds
what it was made with, views and ranges of buffers included: no other was given its serial. The views
of the attachments are the same too, unless their textures stand for the surface; a pass without
colour attachments is never encoded. -/
theorem replay_spec :
    (∀ (d : RenderDesc) (r : RenderPass) (c c₀ c₁ c₁' c₂ c₂' : Context), c.Reachable →
      d.compile c = .ok r c₀ → ReflTransGen Step c₀ c₁ → r.build c₁ = .ok () c₁' →
      ReflTransGen Step c₁' c₂ → r.build c₂ = .ok () c₂' →
      (r.colors = [] → c₁'.device.encoded = c₁.device.encoded ∧
        c₂'.device.encoded = c₂.device.encoded) ∧
      (r.colors ≠ [] → ∃ mid₁ mid₂ colors₁ colors₂ depth₁ depth₂ commands,
        c₁.Encodes mid₁ (.renderPass r.label colors₁ depth₁ commands) ∧
        c₂.Encodes mid₂ (.renderPass r.label colors₂ depth₂ commands) ∧
        r.Records mid₁ commands ∧ r.SameTargets mid₂ colors₁ colors₂ depth₁ depth₂) ∧
      ∀ g ∈ r.bindGroups, c₀.device.bound g ≠ [] ∧ c₁'.device.bound g = c₀.device.bound g ∧
        c₂'.device.bound g = c₀.device.bound g) ∧
    ∀ (d : ComputeDesc) (r : ComputePass) (c c₀ c₁ c₁' c₂ c₂' : Context), c.Reachable →
      (∀ hook, d.hook = some hook → Runs Step hook) →
      d.compile c = .ok r c₀ → ReflTransGen Step c₀ c₁ → r.build c₁ = .ok () c₁' →
      ReflTransGen Step c₁' c₂ → r.build c₂ = .ok () c₂' →
      (∃ mid₁ mid₂ commands, c₁.Encodes mid₁ (.computePass r.label commands) ∧
        c₂.Encodes mid₂ (.computePass r.label commands) ∧ r.Records mid₁ commands) ∧
      ∀ g ∈ r.bindGroups, c₀.device.bound g ≠ [] ∧ c₁'.device.bound g = c₀.device.bound g ∧
        c₂'.device.bound g = c₀.device.bound g := by
  have hbound {groups : List Nat} {c₀ c₁ c₁' c₂ c₂' : Context}
      (h₀ : ∀ g ∈ groups, g < c₀.device.nextSerial ∧ c₀.device.bound g ≠ [])
      (h₁ : ReflTransGen Step c₀ c₁) (hb₁ : ReflTransGen Step c₁ c₁')
      (h₂ : ReflTransGen Step c₁' c₂) (hb₂ : ReflTransGen Step c₂ c₂') :
      ∀ g ∈ groups, c₀.device.bound g ≠ [] ∧ c₁'.device.bound g = c₀.device.bound g ∧
        c₂'.device.bound g = c₀.device.bound g := fun g hg =>
    -- The groups are there before the first recording, and what is made later has later serials.
    have hfirst := h₁.trans hb₁
    ⟨(h₀ g hg).2, (Context.renews_of_steps hfirst).bound_eq (h₀ g hg).1,
      (Context.renews_of_steps (hfirst.trans (h₂.trans hb₂))).bound_eq (h₀ g hg).1⟩
  have hreachable {c c' : Context} (hc : c.Reachable) (h : ReflTransGen Step c c') :
      c'.Reachable := by
    obtain ⟨d, hd⟩ := hc
    exact ⟨d, hd.trans h⟩
  refine ⟨fun d r c c₀ c₁ c₁' c₂ c₂' hc h h₁ hb₁ h₂ hb₂ => ⟨fun hcolors => ?_, fun hcolors => ?_,
    hbound (d.compile_bound hc h) h₁ (r.build_runs.of_eq_ok hb₁) h₂ (r.build_runs.of_eq_ok hb₂)⟩,
    fun d r c c₀ c₁ c₁' c₂ c₂' hc hhook h h₁ hb₁ h₂ hb₂ => ?_⟩
  · rw [RenderPass.build_of_nil hcolors] at hb₁ hb₂
    exact ⟨(SyncPlan.run_synced hb₁).encoded, (SyncPlan.run_synced hb₂).encoded⟩
  · exact RenderPass.records_again (hreachable hc ((d.compile_runs.of_eq_ok h).trans h₁)) hcolors hb₁
      h₂ hb₂
  · have hhook (hook : Hook) (hh : r.hook = some hook) : Runs Step hook := by
      obtain ⟨p, c', -, hf⟩ := bind_eq_ok h
      exact hhook hook ((ComputeDesc.finish_eq_ok hf).2.2.1 ▸ hh)
    have hruns := r.build_runs hhook
    exact ⟨ComputePass.records_again (hreachable hc ((d.compile_runs.of_eq_ok h).trans h₁)) hhook hb₁
      h₂ hb₂, hbound (d.compile_bound hc h) h₁ (hruns.of_eq_ok hb₁) h₂ (hruns.of_eq_ok hb₂)⟩

namespace NextFrame

/-- A vertex shader without inputs, and a fragment shader that samples a texture. -/
def code : ShaderModule where
  globals := [
    { name := "image", space := .handle, type := .image .d2 (.sampled .float false),
      slot := some ⟨0, 0⟩ }]
  entryPoints := [
    { name := "corners", stage := .pipeline .vertex,
      result := some { type := .vector 4 ⟨.float, 4⟩, passing := .builtin } },
    { name := "shade", stage := .pipeline .fragment, uses := ["image"],
      result := some { type := .vector 4 ⟨.float, 4⟩, passing := .location 0 } }]

/-- Creates the texture of the surface, a texture, the shaders and an attachment on the surface. -/
def setup : Work ResourceError Unit := do
  let _ ← Work.createSurfaceTexture none
  let _ ← Work.createTexture2d { width := 4, height := 4, format := some .rgba8Unorm }
  let _ ← Work.createShader .vertex { code := code, entryPoint := "corners" }
  let _ ← Work.createShader .fragment { code := code, entryPoint := "shade" }
  let _ ← Work.createColorAttachment
    { texture := ⟨1⟩, options := { clearColor := ⟨⟨0⟩, ⟨0⟩, ⟨0⟩, ⟨0⟩⟩ } }

/-- The context with these resources. -/
def context : Context := after setup (.start {})

theorem reachable : context.Reachable := by
  refine Context.Reachable.runs ⟨.start {}, .refl⟩ ?_
  exact (Work.createSurfaceTexture_runs _).bind fun _ => (Work.createTexture2d_runs _).bind fun _ =>
    (Work.createShader_runs _ _).bind fun _ => (Work.createShader_runs _ _).bind fun _ =>
    (Work.createColorAttachment_runs _).bind fun _ => runs_pure ()

/-- A pass that samples the texture and renders into the surface. -/
def pass : RenderDesc where
  vertexShader := some ⟨3⟩
  fragmentShader := some ⟨4⟩
  uniforms := .ofList [("image", ⟨⟨2⟩, .texture2D⟩)]
  draw := .vertices 3 1
  colors := [⟨5⟩]

/-- Compiles the pass and records it in two frames. -/
def twoFrames : Work CompileError RenderPass := do
  let r ← pass.compile
  (r.build : Work ResourceError Unit)
  modify fun c => { c with device := c.device.nextFrame }
  (r.build : Work ResourceError Unit)
  return r

end NextFrame

/-- A pass that renders into the surface is recorded in two frames: the commands are the same, and its
bind group binds the same. -/
theorem replay_nextFrame : ∃ r c₀ c₁ c₂ mid₁ mid₂ colors₁ colors₂ depth₁ depth₂ commands,
    NextFrame.pass.compile NextFrame.context = .ok r c₀ ∧ r.build c₀ = .ok () c₁ ∧
    r.build { c₁ with device := c₁.device.nextFrame } = .ok () c₂ ∧
    c₀.Encodes mid₁ (.renderPass r.label colors₁ depth₁ commands) ∧
    Context.Encodes { c₁ with device := c₁.device.nextFrame } mid₂
      (.renderPass r.label colors₂ depth₂ commands) ∧
    r.SameTargets mid₂ colors₁ colors₂ depth₁ depth₂ ∧ r.bindGroups = [7] ∧
    c₂.device.bound 7 = c₀.device.bound 7 := by
  have hout : (outcome NextFrame.twoFrames NextFrame.context).map
      (fun r => (r.bindGroups, r.colors)) = .ok ([7], [⟨5⟩]) := by decide +kernel
  cases h : NextFrame.twoFrames NextFrame.context with
  | error e c' =>
    rw [outcome_error h] at hout
    cases hout
  | ok r c' =>
    rw [outcome_ok h] at hout
    obtain ⟨hgroups, hcolors⟩ := Prod.mk.inj (Except.ok.inj hout)
    obtain ⟨r', c₀, hcompile, h₁⟩ := bind_eq_ok h
    obtain ⟨u, c₁, hfirst, h₂⟩ := bind_eq_ok h₁
    obtain ⟨u', c₁', hframe, h₃⟩ := bind_eq_ok h₂
    obtain ⟨u'', c₂, hsecond, h₄⟩ := bind_eq_ok h₃
    clear h h₁ h₂ h₃
    cases h₄
    cases hframe
    have hfirst := lift_eq_ok.1 hfirst
    have hsecond := lift_eq_ok.1 hsecond
    obtain ⟨-, hrecords, hbound⟩ := replay_spec.1 NextFrame.pass r NextFrame.context c₀ c₀ c₁
      _ c' NextFrame.reachable hcompile .refl hfirst (.single .nextFrame) hsecond
    obtain ⟨mid₁, mid₂, colors₁, colors₂, depth₁, depth₂, commands, hencodes₁, hencodes₂, -,
      hsame⟩ := hrecords (by rw [hcolors]; exact List.cons_ne_nil _ _)
    exact ⟨r, c₀, c₁, c', mid₁, mid₂, colors₁, colors₂, depth₁, depth₂, commands, hcompile, hfirst,
      hsecond, hencodes₁, hencodes₂, hsame, hgroups,
      (hbound 7 (by rw [hgroups]; exact List.mem_singleton_self _)).2.2⟩

end PassForge
