import PassForge.Proofs.Context.Again
import PassForge.Proofs.Pass.Standing

/-!
# Bind groups that are made again

Layouts and bind groups that have been made once can be made again. The layouts are new ones with the
same entries, and the bind groups new ones that bind the same, but for views that may differ.

* `Rebinds` relates what is bound for one binding, and `RebindsAll` the entries of one bind group.
* `BoundLayout` is a layout with the bind group that was made of it. `bindLayout` is `makeBindGroup`
  with this outcome (`makeBindGroup_eq`).
* `repeats_makeLayouts` and `repeats_bindLayout`: the parts.
* `UniformsMade` is what a run that makes all of them leaves on the device; `BindsUniforms.again` repeats
  such a run.
-/

namespace PassForge

open Context (Lasting Touch)
open Relation (ReflTransGen)

variable {Same : ResourceId → Bool → Prop} {c c' c₁ : Context} {table : UniformTable}
  {b : MergedBinding}

/-! ## Layouts -/

theorem repeats_makeLayout (g : MergedGroup) :
    Repeats Same GroupLayout.Alike (makeLayout table g) (makeLayout table g) := by
  refine repeats_context (makeLayout_touches g) fun c c' _ hprecedes => ?_
  have hcall {label : String} {es : List LayoutEntry} :
      Runs Touch (Work.call (Device.createBindGroupLayout label es) : Work CompileError Nat) :=
    fun _ => .single (.layout ..)
  refine Repeats.except (R := Eq) (fun es hes => ?_) fun es es' heq => ?_
  · exact ⟨es, layoutEntries_stand hes hprecedes.lasting, rfl⟩
  · subst heq
    refine (repeats_call hcall hcall).bind (fun _ => runs_pure _) hcall fun _ _ _ => ?_
    exact repeats_pure ⟨rfl, rfl⟩

/-- Layouts that have been made are made again, of the same groups and with the same entries. -/
theorem repeats_makeLayouts (stages : List ShaderInterface) :
    Repeats Same (List.Forall₂ GroupLayout.Alike) (makeLayouts stages table)
      (makeLayouts stages table) := by
  refine repeats_context (makeLayouts_touches stages) fun c c' _ hprecedes => ?_
  refine Repeats.except (R := Eq) (fun gs hgs => ?_) fun gs gs' heq => ?_
  · exact ⟨gs, by rw [hprecedes.limits, hgs], rfl⟩
  · subst heq
    exact Repeats.mapM (P := Eq) (fun g g' hg => hg ▸ repeats_makeLayout g) makeLayout_touches
      makeLayout_touches (List.forall₂_same.2 fun _ _ => rfl)

theorem repeats_makePipelineLayout (label : Option String) (layouts layouts' : List GroupLayout) :
    Repeats Same (fun _ _ => True) (makePipelineLayout label layouts)
      (makePipelineLayout label layouts') :=
  repeats_call (makePipelineLayout_touches label layouts)
    (makePipelineLayout_touches label layouts')

/-! ## Bindings -/

/-- What a binding binds again is the same, unless it is a view of a texture that may give another. -/
inductive Rebinds (Same : ResourceId → Bool → Prop) (table : UniformTable) (b : MergedBinding) :
    BoundResource → BoundResource → Prop
  | same {bound : BoundResource} : Rebinds Same table b bound bound
  | view {a : Assignment} {v v' : View} (ha : table.assignment? b.name = some a)
      (h : ¬Same a.resource b.kind.isStorageTexture) : Rebinds Same table b (.view v) (.view v')

/-- The entries that some bindings get again: for the same slots, and each with what its binding binds
again. -/
inductive RebindsAll (Same : ResourceId → Bool → Prop) (table : UniformTable) :
    List MergedBinding → List GroupEntry → List GroupEntry → Prop
  | nil : RebindsAll Same table [] [] []
  | cons {b : MergedBinding} {bound bound' : BoundResource} {bs : List MergedBinding}
      {es es' : List GroupEntry} (h : Rebinds Same table b bound bound')
      (hs : RebindsAll Same table bs es es') :
      RebindsAll Same table (b :: bs) (⟨b.binding, bound⟩ :: es) (⟨b.binding, bound'⟩ :: es')

theorem RebindsAll.length {bs : List MergedBinding} {es es' : List GroupEntry}
    (h : RebindsAll Same table bs es es') : es'.length = es.length := by
  induction h with
  | nil => rfl
  | cons _ _ ih => simp [ih]

/-- A buffer is bound again as it was, with the same range. -/
theorem repeats_bindBuffer (g : MergedGroup) (b : MergedBinding) {buffer buffer' : Buffer}
    (hfixed : buffer'.fixed = buffer.fixed) (cuts : Cuts) :
    Repeats Same Eq (bindBuffer table g b buffer cuts) (bindBuffer table g b buffer' cuts) := by
  have hid : buffer'.id = buffer.id := (congrArg Buffer.id hfixed :)
  have hruns := (@Work.on_buffer_touches _ buffer.id _ Buffer.handle_uses).lift
  unfold bindBuffer
  rw [hid]
  by_cases hwhole : g.references table buffer.id ≤ 1
  · simp only [if_pos hwhole]
    refine repeats_bufferHandle.lift.bind (fun _ => runs_pure _) hruns fun serial serial' heq => ?_
    exact repeats_pure (by rw [heq])
  · simp only [if_neg hwhole]
    have hrest : ∀ serial, Runs Touch (Work.context >>= fun c =>
        (liftM (cut c.device.limits buffer b cuts) : Work CompileError (BufferRange × Cuts)) >>=
          fun r => pure (BoundResource.buffer serial r.1.offset
            (if r.1.size = 0 then none else some r.1.size), r.2)) := fun serial =>
      runs_context.bind fun _ => runs_liftExcept.bind fun _ => runs_pure _
    refine repeats_bufferHandle.lift.bind hrest hruns fun serial serial' heq => ?_
    subst heq
    refine repeats_context (hrest serial) fun c c' _ hprecedes => ?_
    refine Repeats.except (R := Eq) (fun r hr => ?_) fun r r' heq => repeats_pure (by rw [heq])
    exact ⟨r, by rw [hprecedes.limits, cut_of_fixed hfixed, hr], rfl⟩

/-- A texture is bound again with the same view where `Same` says so. -/
theorem repeats_bindTexture {a : Assignment} {t t' : Texture}
    (ha : table.assignment? b.name = some a) (hid : t.id = a.resource)
    (hfixed : t'.fixed = t.fixed) :
    Repeats Same (Rebinds Same table b) (bindTexture b t) (bindTexture b t') := by
  have hid' : t'.id = a.resource := (congrArg Texture.id hfixed).trans hid
  have hruns := (@Work.on_texture_touches _ a.resource _
    (Texture.bindView_uses b.kind.isStorageTexture)).lift
  rw [bindTexture_eq, bindTexture_eq, hid, hid']
  refine (repeats_bindView _).lift.bind (fun _ => runs_pure _) hruns fun v v' hview => ?_
  refine repeats_pure ?_
  by_cases hsame : Same a.resource b.kind.isStorageTexture
  · rw [hview hsame]
    exact .same
  · exact .view ha hsame

/-- What is assigned to a binding is bound again. -/
theorem repeats_bindResource (g : MergedGroup) (b : MergedBinding) (cuts : Cuts) :
    Repeats Same (fun r r' => r'.2 = r.2 ∧ Rebinds Same table b r.1 r'.1)
      (bindResource table g b cuts) (bindResource table g b cuts) := by
  refine repeats_context (bindResource_touches g b cuts) fun c c' hc hprecedes => ?_
  refine Repeats.except
    (R := fun r r' => r'.fixed = r.fixed ∧
      ∃ a, table.assignment? b.name = some a ∧ Resolves c a b.kind r)
    (fun r hr => ?_) fun r r' ⟨hfixed, a, ha, hres⟩ => ?_
  · obtain ⟨r', hr', hfixed⟩ := resolve_stands hr hprecedes.lasting
    exact ⟨r', hr', hfixed, resolve_eq_ok hr⟩
  · cases r with
    | buffer buffer =>
      cases r' with
      | buffer buffer' =>
        refine (repeats_bindBuffer g b (Resolved.buffer.inj hfixed) cuts).imp fun r r' heq => ?_
        subst heq
        exact ⟨rfl, .same⟩
      | texture | sampler => cases hfixed
    | texture t =>
      cases r' with
      | texture t' =>
        have hid : t.id = a.resource := hres.texture_id hc
        refine (repeats_bindTexture ha hid (Resolved.texture.inj hfixed)).bind
          (fun _ => runs_pure _) (bindTexture_touches b t') fun bound bound' hrebinds => ?_
        exact repeats_pure ⟨rfl, hrebinds⟩
      | buffer | sampler => cases hfixed
    | sampler s =>
      cases r' with
      | sampler s' =>
        have hbare : s'.bare = s.bare := Resolved.sampler.inj hfixed
        have hid : s'.id = s.id := (congrArg Sampler.id hbare :)
        have hruns := (@Work.on_sampler_touches _ s.id _ Sampler.handle_runs).lift
        dsimp only
        rw [hid]
        refine repeats_samplerHandle.lift.bind (fun _ => runs_pure _) hruns
          fun serial serial' heq => ?_
        subst heq
        exact repeats_pure ⟨rfl, .same⟩
      | buffer | texture => cases hfixed

/-- A list of bindings is bound again, in the same order. -/
theorem repeats_bindAll (g : MergedGroup) (bs : List MergedBinding) (cuts : Cuts) :
    Repeats Same (RebindsAll Same table bs) (bindAll table g bs cuts) (bindAll table g bs cuts) := by
  induction bs generalizing cuts with
  | nil => exact repeats_pure .nil
  | cons b bs ih =>
    refine (repeats_bindResource g b cuts).bind
      (fun r => (bindAll_touches g bs r.2).bind fun _ => runs_pure _)
      (bindResource_touches g b cuts) fun r r' ⟨hcuts, hrebinds⟩ => ?_
    show Repeats Same _ (bindAll table g bs r.2 >>= _) (bindAll table g bs r'.2 >>= _)
    rw [hcuts]
    refine (ih r.2).bind (fun _ => runs_pure _) (bindAll_touches g bs r.2) fun es es' hes => ?_
    exact repeats_pure (.cons hrebinds hes)

/-! ## Bind groups -/

/-- A layout with a bind group that was made of it. -/
structure BoundLayout where
  layout : GroupLayout
  /-- The serial of the bind group. -/
  serial : Nat
  entries : List GroupEntry

/-- Makes the bind group of a layout, like `makeBindGroup`, and says what it binds. -/
def bindLayout (table : UniformTable) (l : GroupLayout) : Work CompileError BoundLayout := do
  let entries ← bindAll table l.group l.group.bindings .empty
  if entries.length ≠ l.entries.length then
    throw (.bindGroupEntryMismatch l.group.index l.entries.length entries.length)
  let label := "bind group " ++ toString l.group.index
  let serial ← Work.call (Device.createBindGroup label l.layout entries)
  return ⟨l, serial, entries⟩

theorem makeBindGroup_eq (l : GroupLayout) :
    makeBindGroup table l = BoundLayout.serial <$> bindLayout table l := by
  unfold makeBindGroup bindLayout
  rw [map_bind]
  refine bind_congr fun entries => ?_
  split
  · rfl
  · rw [map_bind]
    exact (bind_pure _).symm

theorem makeBindGroups_eq (layouts : List GroupLayout) :
    makeBindGroups table layouts =
      List.map BoundLayout.serial <$> layouts.mapM (bindLayout table) := by
  unfold makeBindGroups
  induction layouts with
  | nil => rfl
  | cons l layouts ih =>
    rw [List.mapM_cons, List.mapM_cons, ih, makeBindGroup_eq]
    simp only [map_bind, bind_map_left, map_pure, List.map_cons]

theorem bindLayout_touches (l : GroupLayout) : Runs Touch (bindLayout table l) :=
  (bindAll_touches l.group l.group.bindings .empty).bind fun entries _ =>
    .check fun _ => .single (.group _ _ entries)

namespace BoundLayout

/-- A device has made a layout and its bind group, with new serials from a given one on. -/
structure Made (m : BoundLayout) (first : Nat) (d : Device) : Prop where
  layout : .bindGroupLayoutCreated m.layout.layout
    ("bind group layout " ++ toString m.layout.group.index) m.layout.entries ∈ d.trace
  group : .bindGroupCreated m.serial ("bind group " ++ toString m.layout.group.index) m.layout.layout
    m.entries ∈ d.trace
  fresh : first ≤ m.layout.layout ∧ first ≤ m.serial

theorem Made.later {m : BoundLayout} {first first₀ : Nat} {d d' : Device} (h : m.Made first d)
    (hfirst : first₀ ≤ first) (hd : d.Later d') : m.Made first₀ d' :=
  ⟨hd.mem h.layout, hd.mem h.group, Nat.le_trans hfirst h.fresh.1, Nat.le_trans hfirst h.fresh.2⟩

/-- A layout and a bind group that are made again: for the same bindings, with the same entries of the
layout, and with entries of the bind group that bind the same. -/
structure Again (Same : ResourceId → Bool → Prop) (table : UniformTable) (m m' : BoundLayout) :
    Prop where
  group : m'.layout.group = m.layout.group
  layoutEntries : m'.layout.entries = m.layout.entries
  entries : RebindsAll Same table m.layout.group.bindings m.entries m'.entries

end BoundLayout

/-- The bind group of a layout is made again of a layout for the same bindings. -/
theorem repeats_bindLayout {l l' : GroupLayout} (h : l.Alike l') :
    Repeats Same (BoundLayout.Again Same table) (bindLayout table l) (bindLayout table l') := by
  obtain ⟨hgroup, hentries⟩ := h
  unfold bindLayout
  rw [hgroup, hentries]
  have hruns := @bindAll_touches table l.group l.group.bindings .empty
  refine (repeats_bindAll l.group l.group.bindings .empty).bind
    (fun entries _ => .check fun _ => .single (.group _ _ entries)) hruns fun es es' hes => ?_
  have hcall {layout : Nat} {es : List GroupEntry} : Runs Touch (Work.call
      (Device.createBindGroup ("bind group " ++ toString l.group.index) layout es) :
        Work CompileError Nat) := fun _ => .single (.group ..)
  rw [hes.length]
  by_cases hlength : es.length ≠ l.entries.length
  · simp only [if_pos hlength]
    intro c m c₁ c' _ hrun _
    cases hrun
  · simp only [if_neg hlength]
    refine (repeats_call hcall hcall).bind (fun _ => runs_pure _) hcall fun serial serial' _ => ?_
    exact repeats_pure ⟨hgroup, hentries, hes⟩

/-! ## Runs -/

/-- What a run leaves on a device that makes layouts with their pipeline layout, and bind groups under
some serials. All of them have new serials, from a given one on. -/
structure UniformsMade (first : Nat) (label : Option String) (layout : Nat) (serials : List Nat)
    (ms : List BoundLayout) (d : Device) : Prop where
  serials : ms.map BoundLayout.serial = serials
  pipelineLayout : .pipelineLayoutCreated layout label (ms.map fun m => m.layout.layout) ∈ d.trace
  fresh : first ≤ layout
  made : ∀ m ∈ ms, m.Made first d

theorem UniformsMade.later {first first₀ layout : Nat} {label : Option String} {serials : List Nat}
    {ms : List BoundLayout} {d d' : Device} (h : UniformsMade first label layout serials ms d)
    (hfirst : first₀ ≤ first) (hd : d.Later d') :
    UniformsMade first₀ label layout serials ms d' where
  serials := h.serials
  pipelineLayout := hd.mem h.pipelineLayout
  fresh := Nat.le_trans hfirst h.fresh
  made m hm := (h.made m hm).later hfirst hd

/-- New layouts have new serials. -/
theorem makeLayouts_fresh {stages : List ShaderInterface} {layouts : List GroupLayout}
    (h : makeLayouts stages table c = .ok layouts c') :
    ∀ l ∈ layouts, c.device.nextSerial ≤ l.layout := by
  unfold makeLayouts at h
  rw [context_bind] at h
  obtain ⟨gs, -, h⟩ := liftExcept_bind_eq_ok h
  have hall := forall₂_of_mapM (I := fun c₁ => c.device.nextSerial ≤ c₁.device.nextSerial)
    (P := fun _ l _ => c.device.nextSerial ≤ l.layout) makeLayout_touches
    (fun _ _ ht hle => hle.trans (Context.nextSerial_le ht)) (fun _ _ _ _ _ h => h)
    (fun g _ c₁ l c₂ hle hl => ?_) (Nat.le_refl _) h
  · intro l hl
    obtain ⟨i, hi, rfl⟩ := List.getElem_of_mem hl
    exact hall.get (hall.length_eq ▸ hi) hi
  · unfold makeLayout at hl
    rw [context_bind] at hl
    obtain ⟨es, -, hl⟩ := liftExcept_bind_eq_ok hl
    rw [call_bind] at hl
    cases hl
    exact hle

/-- A new bind group is made of its layout and has a new serial. -/
theorem bindLayout_eq_ok {l : GroupLayout} {m : BoundLayout}
    (h : bindLayout table l c = .ok m c') : m.layout = l ∧ c.device.nextSerial ≤ m.serial ∧
      .bindGroupCreated m.serial ("bind group " ++ toString l.group.index) l.layout m.entries ∈
        c'.device.trace := by
  obtain ⟨es, c₁, hbind, h⟩ := bind_eq_ok h
  have hle := Context.nextSerial_le ((bindAll_touches l.group l.group.bindings .empty).of_eq_ok hbind)
  split at h
  · cases h
  · cases h
    exact ⟨rfl, hle, List.mem_append_right _ (List.mem_singleton_self _)⟩

theorem bindLayouts_eq_ok {layouts : List GroupLayout} {ms : List BoundLayout}
    (h : layouts.mapM (bindLayout table) c = .ok ms c') :
    List.Forall₂ (fun l m => m.layout = l ∧ c.device.nextSerial ≤ m.serial ∧
      .bindGroupCreated m.serial ("bind group " ++ toString l.group.index) l.layout m.entries ∈
        c'.device.trace) layouts ms := by
  refine forall₂_of_mapM (I := fun c₁ => c.device.nextSerial ≤ c₁.device.nextSerial)
    (P := fun l m c' => m.layout = l ∧ c.device.nextSerial ≤ m.serial ∧
      .bindGroupCreated m.serial ("bind group " ++ toString l.group.index) l.layout m.entries ∈
        c'.device.trace) bindLayout_touches ?_ ?_ ?_ (Nat.le_refl _) h
  · intro c₁ c₂ ht hle
    exact hle.trans (Context.nextSerial_le ht)
  · intro l m c₁ c₂ ht hmade
    have hlater := (Context.spared_of_touches ht).device.later
    exact ⟨hmade.1, hmade.2.1, hlater.mem hmade.2.2⟩
  · intro l _ c₁ m c₂ hle hm
    obtain ⟨hl, hserial, hevent⟩ := bindLayout_eq_ok hm
    exact ⟨hl, hle.trans hserial, hevent⟩

/-- What a run makes is there on the device that it leaves. -/
theorem uniformsMade {label : Option String} {stages : List ShaderInterface}
    {layouts : List GroupLayout} {layout : Nat} {ms : List BoundLayout} {c₂ c₃ : Context}
    (hlayouts : makeLayouts stages table c = .ok layouts c₂)
    (hlayout : makePipelineLayout label layouts c₂ = .ok layout c₃)
    (hgroups : layouts.mapM (bindLayout table) c₃ = .ok ms c') :
    UniformsMade c.device.nextSerial label layout (ms.map BoundLayout.serial) ms c'.device := by
  have ht₁ : ReflTransGen Touch c c₂ := (makeLayouts_touches stages).of_eq_ok hlayouts
  have ht₂ : ReflTransGen Touch c₂ c₃ := (makePipelineLayout_touches label layouts).of_eq_ok hlayout
  have ht₃ : ReflTransGen Touch c₃ c' := (Runs.mapM bindLayout_touches layouts).of_eq_ok hgroups
  have hlater {c c' : Context} (h : ReflTransGen Touch c c') : c.device.Later c'.device :=
    (Context.spared_of_touches h).device.later
  obtain ⟨-, hmade⟩ := makeLayouts_made hlayouts
  have hfresh := makeLayouts_fresh hlayouts
  have hle := Context.nextSerial_le (ht₁.trans ht₂)
  have hall := bindLayouts_eq_ok hgroups
  have hmap : ms.map BoundLayout.layout = layouts := by
    have heq := map_eq_of_forall₂ (f := id) (hall.imp fun _ _ h => h.1.symm)
    rw [List.map_id] at heq
    exact heq.symm
  cases hlayout
  refine ⟨rfl, ?_, Context.nextSerial_le ht₁, fun m hm => ?_⟩
  · refine (hlater ht₃).mem (List.mem_append_right _ (List.mem_singleton.2 ?_))
    rw [← hmap, List.map_map]
    rfl
  · obtain ⟨i, hi, rfl⟩ := List.getElem_of_mem hm
    have hi' : i < layouts.length := hall.length_eq ▸ hi
    have hmem : layouts[i] ∈ layouts := List.getElem_mem hi'
    obtain ⟨hl, hserial, hevent⟩ : ms[i].layout = layouts[i] ∧ _ := hall.get hi' hi
    refine ⟨?_, ?_, ?_⟩
    · rw [hl]
      exact (hlater (ht₂.trans ht₃)).mem (hmade _ hmem).made
    · rw [hl]
      exact hevent
    · rw [hl]
      exact ⟨hfresh _ hmem, hle.trans hserial⟩

/-- **Layouts and bind groups are made again**, of the same groups, with the same layout entries, and
binding the same where `Same` says so. -/
theorem BindsUniforms.again {label : Option String} {stages : List ShaderInterface}
    {layouts : List GroupLayout} {layout : Nat} {serials : List Nat} (halign : Aligned Same c c')
    (h : BindsUniforms label stages table layouts layout serials c c₁) (hprecedes : c₁.Precedes c') :
    ∃ ms layouts' layout' serials' ms' c₁',
      BindsUniforms label stages table layouts' layout' serials' c' c₁' ∧
      UniformsMade c.device.nextSerial label layout serials ms c₁.device ∧
      UniformsMade c'.device.nextSerial label layout' serials' ms' c₁'.device ∧
      List.Forall₂ (BoundLayout.Again Same table) ms ms' := by
  obtain ⟨c₂, c₃, hlayouts, hlayout, hgroups⟩ := h
  rw [makeBindGroups_eq, map_eq_pure_bind] at hgroups
  obtain ⟨ms, c₄, hms, hpure⟩ := bind_eq_ok hgroups
  cases hpure
  have ht₂ : ReflTransGen Touch c₂ c₃ := (makePipelineLayout_touches label layouts).of_eq_ok hlayout
  have ht₃ : ReflTransGen Touch c₃ c₁ := (Runs.mapM bindLayout_touches layouts).of_eq_ok hms
  have hp₃ : c₃.Precedes c' := (Context.precedes_of_touches ht₃).trans hprecedes
  have hp₂ : c₂.Precedes c' := (Context.precedes_of_touches ht₂).trans hp₃
  obtain ⟨layouts', c₂', hlayouts', halike, halign₂⟩ :=
    repeats_makeLayouts stages c layouts c₂ c' halign hlayouts hp₂
  have ht₁' : ReflTransGen Touch c' c₂' := (makeLayouts_touches stages).of_eq_ok hlayouts'
  have hp₃' : c₃.Precedes c₂' := hp₃.trans (Context.precedes_of_touches ht₁')
  obtain ⟨layout', c₃', hlayout', -, halign₃⟩ :=
    repeats_makePipelineLayout label layouts layouts' c₂ layout c₃ c₂' halign₂ hlayout hp₃'
  have ht₂' : ReflTransGen Touch c₂' c₃' :=
    (makePipelineLayout_touches label layouts').of_eq_ok hlayout'
  have hp₁' : c₁.Precedes c₃' :=
    hprecedes.trans (Context.precedes_of_touches (ht₁'.trans ht₂'))
  have hrepeats : Repeats Same (List.Forall₂ (BoundLayout.Again Same table))
      (layouts.mapM (bindLayout table)) (layouts'.mapM (bindLayout table)) :=
    Repeats.mapM (fun _ _ hl => repeats_bindLayout hl) bindLayout_touches bindLayout_touches halike
  obtain ⟨ms', c₁', hms', hagain, -⟩ := hrepeats c₃ ms c₁ c₃' halign₃ hms hp₁'
  have hgroups' : makeBindGroups table layouts' c₃' = .ok (ms'.map BoundLayout.serial) c₁' := by
    rw [makeBindGroups_eq, map_eq_pure_bind]
    exact bind_of_ok hms'
  exact ⟨ms, layouts', layout', _, ms', c₁', ⟨c₂', c₃', hlayouts', hlayout', hgroups'⟩,
    uniformsMade hlayouts hlayout hms, uniformsMade hlayouts' hlayout' hms', hagain⟩

end PassForge
