import PassForge.Proofs.Pass.Cutting

/-!
# How much of a buffer is bound

A layout demands as many bytes of a buffer as the shader declares. A range that is cut from a shared
buffer has as many, and lies inside the buffer. A buffer that is bound whole has the bytes that it has:
nothing compares them with what the layout demands.

* `BindingType.demand` is what a layout demands, and `bytesBound` what is bound.
* `Context.BindsBytes` says what is bound of a buffer for a binding. `EntryBinds` says it of the entries for
  any binding, and `bindResource_entryBinds` proves it of what binding yields.
* `GroupBinds` is what making the bind group of a layout leaves; `BindsUniforms.groupBinds` proves it of
  all layouts of a pass.
* `coverage_spec` is the whole statement. `exists_short_buffer` is a pass that binds fewer bytes than its
  layout demands.
-/

namespace PassForge

open Context (Touch Retains)
open Relation (ReflTransGen)

variable {c c' : Context} {table : UniformTable} {g : MergedGroup} {b : MergedBinding}
  {cuts cuts' : Cuts} {id : ResourceId} {buffer : Buffer} {bound : BoundResource} {le : LayoutEntry}

/-! ## Bytes -/

/-- How many bytes a layout entry demands of a buffer. -/
def BindingType.demand : BindingType → Nat
  | uniformBuffer minSize | storageBuffer _ minSize => minSize.getD 0
  | _ => 0

/-- How many bytes are bound of a buffer with so many in total. Without a size, all from the offset
on. -/
def bytesBound (total offset : Nat) (size : Option Nat) : Nat := size.getD (total - offset)

theorem MergedBinding.minSize_getD (b : MergedBinding) : b.minSize.getD 0 = b.size.getD 0 := by
  unfold minSize
  cases b.size with
  | none => rfl
  | some n => by_cases hn : n = 0 <;> simp [Option.filter, hn]

/-- The layout demands what the shader declares. -/
theorem Resolves.demand_eq {a : Assignment} {r : Resolved} {type : BindingType}
    (h : Resolves c a b.kind r) (hk : b.kind.isBuffer) (htype : b.type r = .ok type) :
    type.demand = b.size.getD 0 := by
  rw [← b.minSize_getD]
  unfold MergedBinding.type at htype
  generalize b.kind = k at h hk htype
  cases h with
  | uniformBuffer | storageBuffer =>
    cases htype
    rfl
  | texture | storageTexture | sampler => cases hk

/-! ## Bindings -/

/-- What is bound of a buffer for a binding that takes it, if the layout demands `demand` bytes. A buffer
that no other binding of the group takes is bound whole, and a range of a shared one is as large as
demanded. Enough bytes are bound exactly if the buffer is shared or has enough. -/
structure Context.BindsBytes (c : Context) (table : UniformTable) (g : MergedGroup) (b : MergedBinding)
    (id : ResourceId) (buffer : Buffer) (demand serial offset : Nat) (size : Option Nat) : Prop where
  takes : b.takes table id
  registered : c.buffers.get? id = some buffer
  device : c.HasBuffer id buffer.kind serial
  declared : demand = b.size.getD 0
  whole : (g.takers table id).length ≤ 1 → offset = 0 ∧ size = none
  range : 1 < (g.takers table id).length → size = if demand = 0 then none else some demand
  inside : offset + bytesBound buffer.size offset size ≤ buffer.size
  covers : demand ≤ bytesBound buffer.size offset size ↔
    1 < (g.takers table id).length ∨ demand ≤ buffer.size

/-- What is bound keeps the buffer, with its kind and its size. -/
theorem Context.BindsBytes.later {demand serial offset : Nat} {size : Option Nat}
    (h : c.BindsBytes table g b id buffer demand serial offset size) (hc : Retains c c') :
    ∃ buffer', buffer'.kind = buffer.kind ∧ buffer'.size = buffer.size ∧
      c'.BindsBytes table g b id buffer' demand serial offset size := by
  obtain ⟨buffer', hb', heq, -⟩ := Retains.exists_keeps hc.buffers hc.deviceBuffers h.registered
  have hkind : buffer'.kind = buffer.kind := (congrArg Buffer.kind heq : buffer'.bare.kind = _)
  have hsize : buffer'.size = buffer.size := (congrArg Buffer.size heq : buffer'.bare.size = _)
  exact ⟨buffer', hkind, hsize, h.takes, hb', hkind ▸ h.device.later hc, h.declared, h.whole, h.range,
    hsize ▸ h.inside, hsize ▸ h.covers⟩

/-- A whole buffer has the bytes that it has. -/
theorem Context.BindsBytes.of_whole {serial : Nat} (htakes : b.takes table id)
    (hb : c.buffers.get? id = some buffer) (hs : c.HasBuffer id buffer.kind serial)
    (hg : ¬1 < (g.takers table id).length) :
    c.BindsBytes table g b id buffer (b.size.getD 0) serial 0 none where
  takes := htakes
  registered := hb
  device := hs
  declared := rfl
  whole _ := ⟨rfl, rfl⟩
  range hshared := absurd hshared hg
  inside := Nat.le_of_eq (Nat.zero_add _)
  covers := (or_iff_right hg).symm

/-- A range that is cut for a binding has as many bytes as the shader declares. -/
theorem Context.BindsBytes.of_range {serial used : Nat} {limits : Limits} (htakes : b.takes table id)
    (hb : c.buffers.get? id = some buffer) (hs : c.HasBuffer id buffer.kind serial)
    (hg : 1 < (g.takers table id).length)
    (hinside : (b.rangeAfter limits used).stop ≤ buffer.size) {offset : Nat} {size : Option Nat}
    (hbound : (b.rangeAfter limits used).resource serial = .buffer serial offset size) :
    c.BindsBytes table g b id buffer (b.size.getD 0) serial offset size := by
  have hsize : (b.rangeAfter limits used).size = b.size.getD 0 := rfl
  generalize b.rangeAfter limits used = r at hinside hbound hsize
  unfold BufferRange.stop at hinside
  unfold BufferRange.resource at hbound
  cases hbound
  -- an empty range is bound as all that follows it, which is no less
  have hbytes : b.size.getD 0 ≤
        bytesBound buffer.size r.offset (if r.size = 0 then none else some r.size) ∧
      r.offset + bytesBound buffer.size r.offset (if r.size = 0 then none else some r.size) ≤
        buffer.size := by
    rw [← hsize]
    unfold bytesBound
    by_cases hzero : r.size = 0
    · rw [if_pos hzero, hzero, Option.getD_none]
      omega
    · rw [if_neg hzero, Option.getD_some]
      omega
  exact ⟨htakes, hb, hs, rfl, fun hle => by omega, fun _ => by rw [hsize], hbytes.2,
    ⟨fun _ => .inl hg, fun _ => hbytes.1⟩⟩

/-- The entries for a binding: both have its slot, a buffer is bound for a buffer binding and for no
other, and what is bound of it is as above. -/
structure EntryBinds (c : Context) (table : UniformTable) (g : MergedGroup) (b : MergedBinding)
    (le : LayoutEntry) (ge : GroupEntry) : Prop where
  layout : le.binding = b.binding
  group : ge.binding = b.binding
  buffer : b.kind.isBuffer ↔ ∃ serial offset size, ge.resource = .buffer serial offset size
  binds : ∀ serial offset size, ge.resource = .buffer serial offset size → ∃ id buffer,
    c.BindsBytes table g b id buffer le.type.demand serial offset size

theorem EntryBinds.later {ge : GroupEntry} (h : EntryBinds c table g b le ge) (hc : Retains c c') :
    EntryBinds c' table g b le ge :=
  { h with binds := fun serial offset size heq =>
      have ⟨id, _, hbinds⟩ := h.binds serial offset size heq
      have ⟨buffer', _, _, hbinds'⟩ := hbinds.later hc
      ⟨id, buffer', hbinds'⟩ }

/-- What binding a buffer leaves of it. -/
theorem bindResource_binds (hc : c.Orderly) (htakes : b.takes table id)
    (hb : c.buffers.get? id = some buffer)
    (h : bindResource table g b cuts c = .ok (bound, cuts') c') : ∃ serial offset size buffer',
      bound = .buffer serial offset size ∧
      c'.BindsBytes table g b id buffer' (b.size.getD 0) serial offset size := by
  have ht := (bindResource_touches g b cuts).of_eq_ok h
  obtain ⟨buffer', hb', hkind, hsize⟩ := (Twin.of_touches hc.sound ht).exists_buffer hb
  obtain ⟨serial, hs, rfl⟩ := bindResource_bound hc htakes hb h
  rw [← hkind] at hs
  obtain ⟨-, hcuts⟩ := (exists_bindResource_iff hc).1 ⟨_, c', h⟩
  by_cases hg : 1 < (g.takers table id).length
  · rw [if_pos hg]
    refine ⟨serial, _, _, buffer', rfl, .of_range htakes hb' hs hg ?_ rfl⟩
    cases hcuts with
    | whole hwhole =>
      have := hwhole id htakes
      omega
    | @range id' buffer₁ htakes' _ hb₁ hfits =>
      obtain rfl := MergedBinding.eq_of_takes htakes htakes'
      cases hb₁.symm.trans hb
      rwa [hsize]
  · rw [if_neg hg]
    exact ⟨serial, 0, none, buffer', rfl, .of_whole htakes hb' hs hg⟩

/-- What binding yields for a binding, and its layout entry. -/
theorem bindResource_entryBinds (hc : c.Orderly) (hle : layoutEntry c table g.index b = .ok le)
    (h : bindResource table g b cuts c = .ok (bound, cuts') c') :
    EntryBinds c' table g b le ⟨b.binding, bound⟩ := by
  obtain ⟨r, hr, hentry⟩ := bind_eq_ok_iff.1 hle
  obtain ⟨type, htype, heq⟩ := bind_eq_ok_iff.1 hentry
  cases heq
  obtain ⟨a, ha, hres⟩ := resolve_eq_ok hr
  by_cases hk : b.kind.isBuffer
  · obtain ⟨buffer, -, hb⟩ := hres.exists_buffer hk
    obtain ⟨serial, offset, size, buffer', rfl, hbinds⟩ :=
      bindResource_binds hc (MergedBinding.takes_iff.2 ⟨hk, a, ha, rfl⟩) hb h
    refine ⟨rfl, rfl, iff_of_true hk ⟨serial, offset, size, rfl⟩, ?_⟩
    rintro _ _ _ ⟨⟩
    exact ⟨a.resource, buffer', hres.demand_eq hk htype ▸ hbinds⟩
  · -- textures and samplers are bound as views and samplers
    have hno : ∀ serial offset size, bound ≠ .buffer serial offset size := by
      unfold bindResource at h
      rw [context_bind] at h
      obtain ⟨r', hr', hbind⟩ := liftExcept_bind_eq_ok h
      cases hr.symm.trans hr'
      generalize b.kind = k at hres hk
      cases hres with
      | uniformBuffer | storageBuffer => exact absurd rfl hk
      | texture ht | storageTexture ht =>
        obtain ⟨v, rfl, -⟩ := bindTexture_has hc.sound ht hbind
        exact fun _ _ _ => nofun
      | sampler hs =>
        obtain ⟨serial, rfl, -⟩ := bindSampler_has hc.sound hs hbind
        exact fun _ _ _ => nofun
    refine ⟨rfl, rfl, iff_of_false hk ?_, fun serial offset size heq => ?_⟩
    · exact fun ⟨serial, offset, size, heq⟩ => hno serial offset size heq
    · exact absurd heq (hno serial offset size)

/-! ## Groups -/

/-- A bind group that a device has made for a layout: one entry for each binding of the group, at the same
place as its layout entry. -/
structure GroupBinds (c : Context) (table : UniformTable) (l : GroupLayout) (serial : Nat)
    (entries : List GroupEntry) : Prop where
  layout : .bindGroupLayoutCreated l.layout ("bind group layout " ++ toString l.group.index)
    l.entries ∈ c.device.trace
  made : .bindGroupCreated serial ("bind group " ++ toString l.group.index) l.layout entries ∈
    c.device.trace
  length : entries.length = l.group.bindings.length
  entry : ∀ (i : Nat) (ge : GroupEntry), entries[i]? = some ge → ∃ b le, l.group.bindings[i]? = some b ∧
    l.entries[i]? = some le ∧ EntryBinds c table l.group b le ge

theorem GroupBinds.later {l : GroupLayout} {serial : Nat} {entries : List GroupEntry}
    (h : GroupBinds c table l serial entries) (hc : Retains c c') :
    GroupBinds c' table l serial entries where
  layout := hc.later.mem h.layout
  made := hc.later.mem h.made
  length := h.length
  entry i ge hge :=
    have ⟨b, le, hb, hle, hentry⟩ := h.entry i ge hge
    ⟨b, le, hb, hle, hentry.later hc⟩

/-- What the bind groups of a run bind of buffers, whether it is enough for their layouts or not. -/
theorem BindsUniforms.groupBinds {label : Option String} {stages : List ShaderInterface}
    {layouts : List GroupLayout} {layout : Nat} {groups : List Nat} (hc : c.Orderly)
    (h : BindsUniforms label stages table layouts layout groups c c') :
    merge stages c.device.limits.maxBindGroups = .ok (layouts.map GroupLayout.group) ∧
      List.Forall₂ (fun l serial => ∃ entries, GroupBinds c' table l serial entries) layouts
        groups := by
  obtain ⟨c₁, c₂, h₁, h₂, h₃⟩ := h
  have ht₂ := ((makeLayouts_touches stages).of_eq_ok h₁).trans
    ((makePipelineLayout_touches label layouts).of_eq_ok h₂)
  obtain ⟨hmerge, hmade⟩ := makeLayouts_made h₁
  have hentries := makeBindGroups_forall₂ (I := fun c' => c'.Orderly ∧ c'.bare = c.bare)
    (P := fun l b ge c' => ∀ le, layoutEntry c table l.group.index b = .ok le →
      EntryBinds c' table l.group b le ge)
    (fun _ _ ht h => ⟨h.1.touches ht, (Context.spared_of_touches ht).bare.trans h.2⟩)
    (fun _ _ _ _ _ ht h le hle => (h le hle).later (Context.retains_of_touches ht))
    (fun _ _ _ _ _ _ _ _ _ hready hbind _ hle => bindResource_entryBinds hready.1
      ((layoutEntry_congr hready.2).trans hle) hbind)
    ⟨hc.touches ht₂, (Context.spared_of_touches ht₂).bare⟩ h₃
  refine ⟨hmerge, ((List.forall₂_and_left _ _).2 ⟨hmade, hentries⟩).imp
    fun l serial ⟨hlayout, entries, hevent, hall⟩ => ⟨entries, ?_, hevent,
      hall.length_eq.symm, fun i ge hge => ?_⟩⟩
  · have hlater := Context.retains_of_touches (((makePipelineLayout_touches label layouts).of_eq_ok
      h₂).trans ((makeBindGroups_touches layouts).of_eq_ok h₃))
    exact hlater.later.mem hlayout.made
  · obtain ⟨hi, rfl⟩ := List.getElem?_eq_some_iff.1 hge
    have hlength := hlayout.entries.length_eq
    have hlength' := hall.length_eq
    have hle := hlayout.entries.get (hlength' ▸ hi) (hlength ▸ hlength' ▸ hi)
    exact ⟨_, _, by simp, by simp, hall.get (hlength' ▸ hi) hi _ hle⟩

/-! ## Compiling -/

theorem RenderDesc.compile_groupBinds {d : RenderDesc} {r : RenderPass} (hc : c.Orderly)
    (h : d.compile c = .ok r c') : ∃ vertexShader fragmentShader vertex fragment table layouts,
      d.vertexShader = some vertexShader ∧ d.fragmentShader = some fragmentShader ∧
      c.Reflects .vertex vertexShader vertex ∧ c.Reflects .fragment fragmentShader fragment ∧
      d.uniforms.uniforms = .ok table ∧
      merge [vertex, fragment] c.device.limits.maxBindGroups =
        .ok (layouts.map GroupLayout.group) ∧
      List.Forall₂ (fun l serial => ∃ entries, GroupBinds c' table l serial entries) layouts
        r.bindGroups := by
  obtain ⟨vertexShader, fragmentShader, vertex, fragment, table, layouts, layout, c₀, c₁, hvs, hfs,
    hvertex, hfragment, htable, ht, hbinds, hretains⟩ := compile_binds hc.sound h
  obtain ⟨hmerge, hbound⟩ := hbinds.groupBinds (hc.touches ht)
  rw [(Context.spared_of_touches ht).device.limits] at hmerge
  exact ⟨vertexShader, fragmentShader, vertex, fragment, table, layouts, hvs, hfs, hvertex, hfragment,
    htable, hmerge, hbound.imp fun _ _ ⟨entries, hentries⟩ => ⟨entries, hentries.later hretains⟩⟩

theorem ComputeDesc.compile_groupBinds {d : ComputeDesc} {r : ComputePass} (hc : c.Orderly)
    (h : d.compile c = .ok r c') : ∃ shader i table layouts, d.shader = some shader ∧
      c.Reflects .compute shader i ∧ d.uniforms.uniforms = .ok table ∧
      merge [i] c.device.limits.maxBindGroups = .ok (layouts.map GroupLayout.group) ∧
      List.Forall₂ (fun l serial => ∃ entries, GroupBinds c' table l serial entries) layouts
        r.bindGroups := by
  obtain ⟨shader, i, table, layouts, layout, c₀, c₁, hs, hi, htable, ht, hbinds, hretains⟩ :=
    compile_binds hc.sound h
  obtain ⟨hmerge, hbound⟩ := hbinds.groupBinds (hc.touches ht)
  rw [(Context.spared_of_touches ht).device.limits] at hmerge
  exact ⟨shader, i, table, layouts, hs, hi, htable, hmerge,
    hbound.imp fun _ _ ⟨entries, hentries⟩ => ⟨entries, hentries.later hretains⟩⟩

/-- **How much of a buffer is bound.** In a context that operations lead to, on a device whose limits for
sizes are 64-bit numbers, for each entry of each bind group of a compiled pass: what is bound lies inside
the buffer, and the layout entry at the same slot demands as many bytes as the shader declares. A range
of a shared buffer has them. A buffer that one binding takes is bound whole, and has them exactly if it
is large enough; the pass compiles if it is not. -/
theorem coverage_spec (hc : c.Reachable)
    (hl : ∀ k : BufferKind, k.sizeLimit c.device.limits ≤ UInt64.size) :
    (∀ (d : RenderDesc) (r : RenderPass) (c' : Context), d.compile c = .ok r c' →
      ∃ vertexShader fragmentShader vertex fragment table layouts,
        d.vertexShader = some vertexShader ∧ d.fragmentShader = some fragmentShader ∧
        c.Reflects .vertex vertexShader vertex ∧ c.Reflects .fragment fragmentShader fragment ∧
        d.uniforms.uniforms = .ok table ∧
        merge [vertex, fragment] c.device.limits.maxBindGroups =
          .ok (layouts.map GroupLayout.group) ∧
        List.Forall₂ (fun l serial => ∃ entries, GroupBinds c' table l serial entries) layouts
          r.bindGroups) ∧
    ∀ (d : ComputeDesc) (r : ComputePass) (c' : Context), d.compile c = .ok r c' →
      ∃ shader i table layouts, d.shader = some shader ∧ c.Reflects .compute shader i ∧
        d.uniforms.uniforms = .ok table ∧
        merge [i] c.device.limits.maxBindGroups = .ok (layouts.map GroupLayout.group) ∧
        List.Forall₂ (fun l serial => ∃ entries, GroupBinds c' table l serial entries) layouts
          r.bindGroups :=
  have horderly : c.Orderly := ⟨hc.sound, hc.checked, hl⟩
  ⟨fun _ _ _ h => RenderDesc.compile_groupBinds horderly h,
    fun _ _ _ h => ComputeDesc.compile_groupBinds horderly h⟩

namespace ShortBuffer

/-- A compute shader that uses a matrix of 64 bytes. -/
def code : ShaderModule where
  globals := [
    { name := "params", space := .uniform, type := .matrix 4 4 ⟨.float, 4⟩, slot := some ⟨0, 0⟩ }]
  entryPoints := [{ name := "main", stage := .pipeline .compute, uses := ["params"] }]

/-- Creates a buffer of 16 bytes and the shader. -/
def setup : Work ResourceError Unit := do
  let _ ← Work.createBuffer .uniform { size := 16 }
  let _ ← Work.createShader .compute { code := code, entryPoint := "main" }

/-- The context with these resources. -/
def context : Context := after setup (.start {})

theorem reachable : context.Reachable := by
  refine Context.Reachable.runs ⟨.start {}, .refl⟩ ?_
  exact (Work.createBuffer_runs _ _).bind fun _ => (Work.createShader_runs _ _).bind fun _ =>
    runs_pure ()

theorem limits (k : BufferKind) : k.sizeLimit context.device.limits ≤ UInt64.size := by
  have hlimits : context.device.limits = {} := by cbv
  exact k.sizeLimit_le_of_default hlimits

/-- A pass that binds the buffer as the matrix. -/
def pass : ComputeDesc where
  shader := some ⟨2⟩
  uniforms := .ofList [("params", ⟨⟨1⟩, .uniformBuffer⟩)]
  dispatch := .workgroups 1 1 1

/-- What compiling the pass leaves. -/
def compiled : Context := after pass.compile context

theorem compiles : ∃ r, pass.compile context = .ok r compiled ∧ r.bindGroups = [6] := by
  have hout : (outcome pass.compile context).map ComputePass.bindGroups = .ok [6] := by cbv
  cases h : outcome pass.compile context with
  | error e =>
    rw [h] at hout
    cases hout
  | ok r =>
    rw [h] at hout
    exact ⟨r, eq_ok_of_outcome h, Except.ok.inj hout⟩

end ShortBuffer

/-- A pass that binds 16 bytes for a matrix of 64 compiles. The layout of its bind group demands 64 bytes,
and the device buffer that is bound whole has 16. -/
theorem exists_short_buffer : ∃ r buffer,
    ShortBuffer.pass.compile ShortBuffer.context = .ok r ShortBuffer.compiled ∧
    r.bindGroups = [6] ∧
    .bindGroupLayoutCreated 3 "bind group layout 0"
      [⟨0, Stage.compute.visibility, .uniformBuffer (some 64)⟩] ∈
      ShortBuffer.compiled.device.trace ∧
    .bindGroupCreated 6 "bind group 0" 3 [⟨0, .buffer 5 0 none⟩] ∈
      ShortBuffer.compiled.device.trace ∧
    ShortBuffer.compiled.buffers.get? ⟨1⟩ = some buffer ∧ buffer.device = some 5 ∧
    buffer.size = 16 ∧
    ¬(BindingType.uniformBuffer (some 64)).demand ≤ bytesBound buffer.size 0 none := by
  obtain ⟨r, h, hgroups⟩ := ShortBuffer.compiles
  have hcompiled : ((ShortBuffer.compiled.buffers.get? ⟨1⟩).map fun b => (b.device, b.size),
      ShortBuffer.compiled.device.trace[0]?, ShortBuffer.compiled.device.trace[3]?) =
      (some (some 5, 16),
        some (.bindGroupLayoutCreated 3 "bind group layout 0"
          [⟨0, Stage.compute.visibility, .uniformBuffer (some 64)⟩]),
        some (.bindGroupCreated 6 "bind group 0" 3 [⟨0, .buffer 5 0 none⟩])) := by cbv
  simp only [Prod.mk.injEq] at hcompiled
  obtain ⟨hbuffer, hlayout, hgroup⟩ := hcompiled
  obtain ⟨buffer, hb, heq⟩ := Option.map_eq_some_iff.1 hbuffer
  obtain ⟨hdevice, hsize⟩ := Prod.mk.inj heq
  refine ⟨r, buffer, h, hgroups, List.mem_of_getElem? hlayout, List.mem_of_getElem? hgroup, hb, hdevice,
    hsize, ?_⟩
  rw [hsize]
  decide

/-- The buffer of that pass is bound as those of every pass. -/
theorem coverage_shortBuffer : ∃ r table layouts,
    ShortBuffer.pass.compile ShortBuffer.context = .ok r ShortBuffer.compiled ∧
    r.bindGroups = [6] ∧ ShortBuffer.pass.uniforms.uniforms = .ok table ∧
    List.Forall₂ (fun l serial => ∃ entries,
      GroupBinds ShortBuffer.compiled table l serial entries) layouts r.bindGroups := by
  obtain ⟨r, h, hgroups⟩ := ShortBuffer.compiles
  obtain ⟨-, -, table, layouts, -, -, htable, -, hbound⟩ :=
    (coverage_spec ShortBuffer.reachable ShortBuffer.limits).2 _ _ _ h
  exact ⟨r, table, layouts, h, hgroups, htable, hbound⟩

end PassForge
