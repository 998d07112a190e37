import PassForge.Proofs.Checks
import PassForge.Proofs.Context.Identity

/-!
# What stays of resources

Passes name device objects. What they rely on:

* `Buffer.fixed`, `Texture.fixed` and `Shader.fixed` are what can never change about a resource
  (`Context.Lasting.fixedBuffer` and the like). A device buffer, a view for rendering into a layer and
  a shader module stay once they are there (`Buffer.Step.device`, `Texture.Step.lookup`,
  `Context.HasModule.lasting`).
* `Context.Step.later`: the limits of the device are fixed and its trace only goes on.
* `Device.bound` is what a bind group binds. `Device.Renews` relates a device to a later state in which
  it has given new serials to new bind groups, so that those of before bind what they did
  (`Renews.bound_eq`). Every step does so: `Context.Step.renews`.
* `Context.Checked` is what creating a buffer or a texture has checked; `Step.checked` is the step lemma
  and `Reachable.checked` the run lemma.
-/

namespace PassForge

open Relation (ReflTransGen)

/-! ## Buffers and textures -/

namespace Buffer

variable {l l' : Live Buffer} {serial : Nat}

/-- A buffer without what steps may change about it. -/
def fixed (b : Buffer) : Buffer :=
  { b with contents := none, handler := none, device := none, stage := none }

theorem Step.fixed (h : Step l l') : l'.object.fixed = l.object.fixed := by
  cases h with
  | use h =>
    cases h
    rfl
  | write | ask | stage | copy | setHandler => rfl

/-- A device buffer that is there stays. -/
theorem Step.device (h : Step l l') (hs : l.object.device = some serial) :
    l'.object.device = some serial := by
  cases h with
  | use h => exact h.device hs
  | write | ask | stage | copy | setHandler => exact hs

end Buffer

namespace Texture

variable {l l' : Live Texture} {layer : Nat} {v : View}

/-- A texture without what steps may change about it. -/
def fixed (t : Texture) : Texture :=
  { t with
    contents := []
    handler := none
    device := none
    mode := .none
    targetLayer := 0
    targetViews := []
    sampledView := none
    storageViews := none
    cursor := 0
    autoAdvance := false }

theorem Step.fixed (h : Step l l') : l'.object.fixed = l.object.fixed := by
  cases h with
  | use h => cases h <;> rfl
  | write | ask | keepTarget | target | point | advance | setAutoAdvance | setHandler => rfl

/-- A view for rendering into a layer that is there stays. -/
theorem Step.lookup (h : Step l l') (hv : l.object.targetViews.lookup layer = some v) :
    l'.object.targetViews.lookup layer = some v := by
  cases h with
  | use h => cases h <;> exact hv
  | keepTarget => simp [Texture.keepTarget, List.lookup_append, hv]
  | write | ask | target | point | advance | setAutoAdvance | setHandler => exact hv

end Texture

/-- A shader without what steps may change about it. -/
def Shader.fixed (s : Shader) : Shader := { s with interface? := none, device := none }

theorem Shader.Step.fixed {l l' : Live Shader} (h : Shader.Step l l') :
    l'.object.fixed = l.object.fixed := by
  cases h with
  | use h =>
    cases h
    rfl
  | make => rfl

namespace Context.Lasting

variable {c c' : Context} {id : ResourceId} (hc : Lasting c c')
include hc

theorem fixedBuffer {b : Buffer} (h : c.buffers.get? id = some b) :
    ∃ b', c'.buffers.get? id = some b' ∧ b'.fixed = b.fixed := by
  obtain ⟨b', hb', hbecomes⟩ := hc.buffer h
  exact ⟨b', hb', hbecomes.eq fun _ _ hl => hl.fixed⟩

theorem fixedTexture {t : Texture} (h : c.textures.get? id = some t) :
    ∃ t', c'.textures.get? id = some t' ∧ t'.fixed = t.fixed := by
  obtain ⟨t', ht', hbecomes⟩ := hc.texture h
  exact ⟨t', ht', hbecomes.eq fun _ _ hl => hl.fixed⟩

theorem bareSampler {s : Sampler} (h : c.samplers.get? id = some s) :
    ∃ s', c'.samplers.get? id = some s' ∧ s'.bare = s.bare := by
  obtain ⟨s', hs', hbecomes⟩ := hc.sampler h
  exact ⟨s', hs', hbecomes.eq fun _ _ hl => hl.bare⟩

theorem fixedShader {s : Shader} (h : c.shaders.get? id = some s) :
    ∃ s', c'.shaders.get? id = some s' ∧ s'.fixed = s.fixed := by
  obtain ⟨s', hs', hbecomes⟩ := hc.shader h
  exact ⟨s', hs', hbecomes.eq fun _ _ hl => hl.fixed⟩

end Context.Lasting

/-- A shader has a module. -/
def Context.HasModule (c : Context) (id : ResourceId) (serial : Nat) : Prop :=
  ∃ s, c.shaders.get? id = some s ∧ s.device = some serial

namespace Context.HasModule

variable {c c' : Context} {id : ResourceId} {serial serial' : Nat}

/-- A shader that has a module keeps it. -/
theorem lasting (h : c.HasModule id serial) (hc : Lasting c c') : c'.HasModule id serial := by
  obtain ⟨s, hs, hdevice⟩ := h
  obtain ⟨s', hs', hbecomes⟩ := hc.shader hs
  exact ⟨s', hs', hbecomes.keeps (P := fun s => s.device = some serial) (fun _ _ hl => hl.device)
    hdevice⟩

theorem eq (h : c.HasModule id serial) (h' : c.HasModule id serial') : serial' = serial := by
  obtain ⟨s, hs, hdevice⟩ := h
  obtain ⟨s', hs', hdevice'⟩ := h'
  cases hs.symm.trans hs'
  exact Option.some.inj (hdevice'.symm.trans hdevice)

end Context.HasModule

/-! ## Bind groups -/

/-- What the bind group with a serial binds, if the event makes it. -/
def Event.bound? (group : Nat) : Event → Option (List GroupEntry)
  | bindGroupCreated serial _ _ entries => if serial = group then some entries else none
  | _ => none

theorem Event.bound?_of_isEncoded {e : Event} {group : Nat} (he : e.isEncoded) :
    e.bound? group = none := by
  cases e with
  | bindGroupCreated => cases he
  | _ => rfl

namespace Device

variable {d d' d'' : Device} {group : Nat}

/-- What the bind group with a serial binds, once for each time that the device has made one. -/
def bound (d : Device) (group : Nat) : List (List GroupEntry) := d.trace.filterMap (Event.bound? group)

/-- A later state of a device in which no new bind group has the serial of an earlier object. -/
structure Renews (d d' : Device) : Prop where
  nextSerial : d.nextSerial ≤ d'.nextSerial
  appends : d.Appends (fun e => ∀ group < d.nextSerial, e.bound? group = none) d'

namespace Renews

theorem refl : Renews d d := ⟨Nat.le_refl _, .refl⟩

theorem trans (h : Renews d d') (h' : Renews d' d'') : Renews d d'' where
  nextSerial := Nat.le_trans h.nextSerial h'.nextSerial
  appends := h.appends.trans (h'.appends.imp fun _ he group hlt =>
    he group (Nat.lt_of_lt_of_le hlt h.nextSerial))

/-- Bind groups that are there bind what they did. -/
theorem bound_eq (h : Renews d d') (hg : group < d.nextSerial) : d'.bound group = d.bound group := by
  obtain ⟨new, htrace, hnew⟩ := h.appends
  have hnone : new.filterMap (Event.bound? group) = [] :=
    List.filterMap_eq_nil_iff.2 fun e he => hnew e he group hg
  rw [bound, htrace, List.filterMap_append, hnone, List.append_nil, bound]

theorem log {e : Event} (he : ∀ group, e.bound? group = none) : Renews d (d.log e) :=
  ⟨Nat.le_refl _, .single rfl fun group _ => he group⟩

theorem create (event : Nat → Event) (he : ∀ group, (event d.nextSerial).bound? group = none) :
    Renews d (d.create event).2 :=
  ⟨Nat.le_succ _, .single rfl fun group _ => he group⟩

theorem createBuffer (label : Option String) (size : Nat) (usage : BufferUsage) :
    Renews d (d.createBuffer label size usage).2 :=
  create (fun serial => .bufferCreated serial label size usage) fun _ => rfl

theorem createTexture (request : TextureRequest) : Renews d (d.createTexture request).2 :=
  create (fun serial => .textureCreated serial request) fun _ => rfl

theorem createSampler (label : Option String) (state : SamplerState) :
    Renews d (d.createSampler label state).2 :=
  create (fun serial => .samplerCreated serial label state) fun _ => rfl

theorem createShaderModule (label : Option String) : Renews d (d.createShaderModule label).2 :=
  create (fun serial => .shaderModuleCreated serial label) fun _ => rfl

theorem createBindGroupLayout (label : String) (entries : List LayoutEntry) :
    Renews d (d.createBindGroupLayout label entries).2 :=
  create (fun serial => .bindGroupLayoutCreated serial label entries) fun _ => rfl

theorem createPipelineLayout (label : Option String) (layouts : List Nat) :
    Renews d (d.createPipelineLayout label layouts).2 :=
  create (fun serial => .pipelineLayoutCreated serial label layouts) fun _ => rfl

theorem createRenderPipeline (layout vertexModule fragmentModule : Nat)
    (samples : MultisampleState) (pipeline : Nat → Pipeline) :
    Renews d (d.createRenderPipeline layout vertexModule fragmentModule samples pipeline).2 :=
  create (fun _ => .renderPipelineCreated layout vertexModule fragmentModule samples
    (pipeline d.nextSerial)) fun _ => rfl

theorem createComputePipeline (layout shaderModule : Nat) (pipeline : Nat → Pipeline) :
    Renews d (d.createComputePipeline layout shaderModule pipeline).2 :=
  create (fun _ => .computePipelineCreated layout shaderModule (pipeline d.nextSerial)) fun _ => rfl

/-- A new bind group gets the next serial. -/
theorem createBindGroup (label : String) (layout : Nat) (entries : List GroupEntry) :
    Renews d (d.createBindGroup label layout entries).2 :=
  ⟨Nat.le_succ _, .single rfl fun _ hlt => if_neg (Nat.ne_of_gt hlt)⟩

theorem foldl_log {α : Type} (f : α → Event) (hf : ∀ a group, (f a).bound? group = none)
    (as : List α) : Renews d (as.foldl (fun d a => d.log (f a)) d) := by
  induction as generalizing d with
  | nil => exact refl
  | cons a as ih => exact (log (hf a)).trans ih

theorem createView (label : Option String) (texture : Nat) (range : ViewRange) :
    Renews d (d.createView label texture range).2 :=
  create (fun _ => .viewCreated label (range.view d.nextSerial texture)) fun _ => rfl

theorem createViews (label : Option String) (texture : Nat) (ranges : List ViewRange) :
    Renews d (d.createViews label texture ranges).2 := by
  induction ranges generalizing d with
  | nil => exact .refl
  | cons r ranges ih => exact (createView label texture r).trans ih

/-- The next frame takes serials for its image, and makes no bind group. -/
theorem nextFrame : Renews d d.nextFrame := ⟨Nat.le_add_right .., .same rfl⟩

theorem loseSurface : Renews d d.loseSurface := ⟨Nat.le_refl _, .same rfl⟩

end Renews

end Device

section Renews

variable {d : Device}

theorem Buffer.Step.renews {l l' : Live Buffer} (h : Buffer.Step l l') :
    l.device.Renews l'.device := by
  cases h with
  | use h =>
    cases h
    have hmade : l.device.Renews (l.device.createBuffer l.object.label l.object.size
        l.object.kind.usage).2 := .createBuffer ..
    unfold Buffer.made
    cases l.object.contents with
    | some bytes => exact hmade.trans (.log fun _ => rfl)
    | none => exact hmade
  | write | ask | copy => exact .log fun _ => rfl
  | stage => exact .createBuffer ..
  | setHandler => exact .refl

theorem Texture.Use.renews {l l' : Live Texture} (h : Texture.Use l l') :
    l.device.Renews l'.device := by
  cases h with
  | make =>
    have hmade : l.device.Renews (l.device.createTexture l.object.request).2 := .createTexture _
    unfold Texture.made
    cases l.object.format.isDepthStencil with
    | true => exact hmade
    | false => exact hmade.trans (.foldl_log _ (fun _ _ => rfl) _)
  | view | keepSampled => exact .createView ..
  | keepStorage => exact .createViews ..
  | sampled | storage | advance => exact .refl

theorem Texture.Step.renews {l l' : Live Texture} (h : Texture.Step l l') :
    l.device.Renews l'.device := by
  cases h with
  | use h => exact h.renews
  | write | ask => exact .log fun _ => rfl
  | keepTarget => exact .createView ..
  | target | point | advance | setAutoAdvance | setHandler => exact .refl

theorem Sampler.Step.renews {l l' : Live Sampler} (h : Sampler.Step l l') :
    l.device.Renews l'.device := by
  cases h
  exact .createSampler ..

theorem Shader.Step.renews {l l' : Live Shader} (h : Shader.Step l l') :
    l.device.Renews l'.device := by
  cases h with
  | use h =>
    cases h
    exact .refl
  | make => exact .createShaderModule _

namespace Context

variable {c c' : Context}

theorem Touch.renews (h : Touch c c') : c.device.Renews c'.device := by
  cases h with
  | buffer _ hl => exact (Buffer.Step.use hl).renews
  | texture _ hl => exact hl.renews
  | sampler _ hl => exact hl.renews
  | shader _ hl => exact (Shader.Step.use hl).renews
  | layout => exact .createBindGroupLayout ..
  | pipelineLayout => exact .createPipelineLayout ..
  | group => exact .createBindGroup ..

/-- A step only adds to what has happened on the device. -/
theorem Step.later (h : Step c c') : c.device.Later c'.device := by
  cases h with
  | touch h => exact h.spared.device.later
  | buffer _ hl => exact hl.serves.later
  | texture _ hl => exact hl.serves.later
  | shader _ hl => exact hl.later
  | renderPipeline => exact .createRenderPipeline ..
  | computePipeline => exact .createComputePipeline ..
  | encode | callHook => exact .log _
  | nextFrame => exact .nextFrame
  | loseSurface => exact .loseSurface
  | _ => exact .refl

theorem later_of_steps (h : ReflTransGen Step c c') : c.device.Later c'.device := by
  induction h with
  | refl => exact .refl
  | tail _ h ih => exact ih.trans h.later

/-- A step gives no bind group the serial of an earlier object. -/
theorem Step.renews (h : Step c c') : c.device.Renews c'.device := by
  cases h with
  | touch h => exact h.renews
  | buffer _ hl => exact hl.renews
  | texture _ hl => exact hl.renews
  | shader _ hl => exact hl.renews
  | renderPipeline => exact .createRenderPipeline ..
  | computePipeline => exact .createComputePipeline ..
  | encode he => exact .log fun _ => Event.bound?_of_isEncoded he
  | callHook => exact .log fun _ => rfl
  | nextFrame => exact .nextFrame
  | loseSurface => exact .loseSurface
  | _ => exact .refl

theorem renews_of_steps (h : ReflTransGen Step c c') : c.device.Renews c'.device := by
  induction h with
  | refl => exact .refl
  | tail _ h ih => exact ih.trans h.renews

theorem nextSerial_le (h : ReflTransGen Touch c c') : c.device.nextSerial ≤ c'.device.nextSerial :=
  (renews_of_steps (ReflTransGen.mono (fun _ _ => .touch) _ _ h)).nextSerial

end Context

end Renews

/-! ## Checked sizes and usages -/

/-- A new buffer is below the limit of its kind. -/
theorem Buffer.size_of_create {limits : Limits} {kind : BufferKind} {desc : BufferDesc}
    {id : ResourceId} {b : Buffer} (h : Buffer.create limits kind desc id = .ok b) :
    b.size < b.kind.sizeLimit limits := by
  unfold Buffer.create at h
  obtain ⟨-, h⟩ := of_check_eq_ok h
  obtain ⟨hlimit, h⟩ := of_check_eq_ok h
  obtain ⟨-, h⟩ := of_check_eq_ok h
  cases hc : desc.contents with
  | none =>
    simp only [hc] at h
    cases h
    exact Nat.lt_of_not_le hlimit
  | some contents =>
    simp only [hc] at h
    obtain ⟨_, -, h⟩ := bind_eq_ok_iff.1 h
    cases h
    exact Nat.lt_of_not_le hlimit

/-- A new texture can be sampled. -/
theorem Texture.usage_of_create {limits : Limits} {surfaceFormat : TextureFormat}
    {kind : TextureKind} {layers : Nat} {desc : TextureDesc} {id : ResourceId} {t : Texture}
    (h : Texture.create limits surfaceFormat kind layers desc id = .ok t) :
    t.usage.contains { textureBinding := true } := by
  unfold Texture.create at h
  obtain ⟨-, h⟩ := of_check_eq_ok h
  obtain ⟨-, h⟩ := of_check_eq_ok h
  obtain ⟨-, h⟩ := of_check_eq_ok h
  obtain ⟨n, -, h⟩ := bind_eq_ok_iff.1 h
  obtain ⟨-, h⟩ := of_check_eq_ok h
  cases h
  simp [TextureUsage.contains, TextureUsage.union, impliedUsage]

namespace Context

variable {c c' : Context} {id : ResourceId}

/-- Every buffer is below the limit of its kind, and every texture can be sampled. -/
structure Checked (c : Context) : Prop where
  buffers : c.buffers.All fun _ b => b.size < b.kind.sizeLimit c.device.limits
  textures : c.textures.All fun _ t => t.usage.contains { textureBinding := true }

theorem Checked.device {d : Device} (hc : c.Checked) (hd : c.device.Later d) :
    Checked { c with device := d } where
  buffers := by
    show c.buffers.All fun _ b => b.size < b.kind.sizeLimit d.limits
    rw [hd.limits]
    exact hc.buffers
  textures := hc.textures

theorem Checked.putBuffer {b : Buffer} {l : Live Buffer} (hc : c.Checked)
    (h : c.buffers.get? id = some b) (hl : Buffer.Step ⟨b, c.device⟩ l) :
    Checked (Shelf.buffers.put id l c) := by
  have hd := hc.device hl.serves.later
  refine { hd with buffers := hd.buffers.update h ?_ }
  show l.object.fixed.size < l.object.fixed.kind.sizeLimit l.device.limits
  rw [hl.fixed, hl.serves.limits]
  exact hc.buffers id b h

theorem Checked.putTexture {t : Texture} {l : Live Texture} (hc : c.Checked)
    (h : c.textures.get? id = some t) (hl : Texture.Step ⟨t, c.device⟩ l) :
    Checked (Shelf.textures.put id l c) := by
  have hd := hc.device hl.serves.later
  refine { hd with textures := hd.textures.update h ?_ }
  show l.object.fixed.usage.contains { textureBinding := true }
  rw [hl.fixed]
  exact hc.textures id t h

theorem Touch.checked (h : Touch c c') (hc : c.Checked) : c'.Checked := by
  have hd := hc.device h.spared.device.later
  cases h with
  | buffer h hl => exact hc.putBuffer h (.use hl)
  | texture h hl => exact hc.putTexture h (.use hl)
  | sampler | shader | layout | pipelineLayout | group => exact { hd with }

theorem checked_of_touches (h : ReflTransGen Touch c c') (hc : c.Checked) : c'.Checked := by
  induction h with
  | refl => exact hc
  | tail _ h ih => exact h.checked ih

/-- A step keeps what creation has checked. -/
theorem Step.checked (h : Step c c') (hc : c.Checked) : c'.Checked := by
  have hd := hc.device h.later
  cases h with
  | touch h => exact h.checked hc
  | buffer h hl => exact hc.putBuffer h hl
  | texture h hl => exact hc.putTexture h hl
  | addBuffer _ _ _ hb => exact { hc with buffers := hc.buffers.insert (Buffer.size_of_create hb) }
  | addTexture _ _ _ _ ht =>
    exact { hc with textures := hc.textures.insert (Texture.usage_of_create ht) }
  | addSurface => exact { hc with textures := hc.textures.insert rfl }
  | _ => exact { hd with }

/-- **What operations lead to has been checked.** -/
theorem Reachable.checked (h : Reachable c) : c.Checked := by
  obtain ⟨d, hd⟩ := h
  induction hd with
  | refl => exact ⟨fun _ _ h => (nomatch h), fun _ _ h => (nomatch h)⟩
  | tail _ h ih => exact h.checked ih

end Context

end PassForge
