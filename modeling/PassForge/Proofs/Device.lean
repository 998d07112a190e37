import Mathlib.Data.List.Forall2
import PassForge.Device.Basic

/-!
# Devices over time

A device never forgets: its limits are fixed and its trace only goes on.

* `Device.Later` relates a device to any later state of it.
* `Device.Serves` relates it to a later state on the same surface in which it has made no shader
  module and no pipeline.
* `Device.bare` is what is left of a device without its serials and its trace.
* `Device.Appends` relates it to a later state and says of what kind everything is that has happened in
  between.
* `Device.HasView` says that the device has made a view of a range of a texture.
-/

namespace PassForge

/-- Whether the event makes a shader module or a pipeline. -/
def Event.isProgram : Event → Bool
  | shaderModuleCreated .. | renderPipelineCreated .. | computePipelineCreated .. => true
  | _ => false

namespace Device

variable {d d' d'' : Device}

/-- A device without its serials and its trace. -/
def bare (d : Device) : Device := { d with nextSerial := 0, trace := [] }

/-- A later state of a device. -/
structure Later (d d' : Device) : Prop where
  limits : d'.limits = d.limits
  surfaceFormat : d'.surfaceFormat = d.surfaceFormat
  trace : d.trace <+: d'.trace

/-- A later state of a device on the same surface, without new shader modules and pipelines. -/
structure Serves (d d' : Device) : Prop where
  bare : d'.bare = d.bare
  trace : ∃ new, d'.trace = d.trace ++ new ∧ ∀ e ∈ new, e.isProgram = false

namespace Later

theorem refl : Later d d := ⟨rfl, rfl, List.prefix_rfl⟩

theorem trans (h : Later d d') (h' : Later d' d'') : Later d d'' :=
  ⟨h'.limits.trans h.limits, h'.surfaceFormat.trans h.surfaceFormat, h.trace.trans h'.trace⟩

/-- What has happened stays in the trace. -/
theorem mem (h : Later d d') {e : Event} (he : e ∈ d.trace) : e ∈ d'.trace := h.trace.subset he

theorem log (e : Event) : Later d (d.log e) := ⟨rfl, rfl, List.prefix_append ..⟩

theorem create (event : Nat → Event) : Later d (d.create event).2 :=
  ⟨rfl, rfl, List.prefix_append ..⟩

theorem createShaderModule (label : Option String) : Later d (d.createShaderModule label).2 :=
  create fun serial => .shaderModuleCreated serial label

theorem createRenderPipeline (layout vertexModule fragmentModule : Nat)
    (samples : MultisampleState) (pipeline : Nat → Pipeline) :
    Later d (d.createRenderPipeline layout vertexModule fragmentModule samples pipeline).2 :=
  create fun _ => .renderPipelineCreated layout vertexModule fragmentModule samples
    (pipeline d.nextSerial)

theorem createComputePipeline (layout shaderModule : Nat) (pipeline : Nat → Pipeline) :
    Later d (d.createComputePipeline layout shaderModule pipeline).2 :=
  create fun _ => .computePipelineCreated layout shaderModule (pipeline d.nextSerial)

theorem nextFrame : Later d d.nextFrame := ⟨rfl, rfl, List.prefix_rfl⟩

theorem loseSurface : Later d d.loseSurface := ⟨rfl, rfl, List.prefix_rfl⟩

end Later

namespace Serves

theorem limits (h : Serves d d') : d'.limits = d.limits :=
  (congrArg Device.limits h.bare : d'.bare.limits = d.bare.limits)

theorem surfaceFormat (h : Serves d d') : d'.surfaceFormat = d.surfaceFormat :=
  (congrArg Device.surfaceFormat h.bare : d'.bare.surfaceFormat = d.bare.surfaceFormat)

theorem surface (h : Serves d d') : d'.surface = d.surface :=
  (congrArg Device.surface h.bare : d'.bare.surface = d.bare.surface)

theorem later (h : Serves d d') : Later d d' := by
  obtain ⟨new, htrace, -⟩ := h.trace
  exact ⟨h.limits, h.surfaceFormat, new, htrace.symm⟩

theorem refl : Serves d d := ⟨rfl, [], (List.append_nil _).symm, fun _ h => (nomatch h)⟩

theorem trans (h : Serves d d') (h' : Serves d' d'') : Serves d d'' := by
  obtain ⟨new, htrace, hnew⟩ := h.trace
  obtain ⟨new', htrace', hnew'⟩ := h'.trace
  refine ⟨h'.bare.trans h.bare, new ++ new', by rw [htrace', htrace, List.append_assoc], ?_⟩
  intro e he
  rcases List.mem_append.1 he with he | he
  · exact hnew e he
  · exact hnew' e he

theorem log {e : Event} (he : e.isProgram = false) : Serves d (d.log e) :=
  ⟨rfl, [e], rfl, fun _ h => List.mem_singleton.1 h ▸ he⟩

theorem create (event : Nat → Event) (he : (event d.nextSerial).isProgram = false) :
    Serves d (d.create event).2 :=
  ⟨rfl, [event d.nextSerial], rfl, fun _ h => List.mem_singleton.1 h ▸ he⟩

theorem createBuffer (label : Option String) (size : Nat) (usage : BufferUsage) :
    Serves d (d.createBuffer label size usage).2 :=
  create (fun serial => .bufferCreated serial label size usage) rfl

theorem createTexture (request : TextureRequest) : Serves d (d.createTexture request).2 :=
  create (fun serial => .textureCreated serial request) rfl

theorem createView (label : Option String) (texture : Nat) (range : ViewRange) :
    Serves d (d.createView label texture range).2 :=
  create (fun _ => .viewCreated label (range.view d.nextSerial texture)) rfl

/-- Logging an event for each element of a list. -/
theorem foldl_log {α : Type} (f : α → Event) (hf : ∀ a, (f a).isProgram = false) (as : List α) :
    Serves d (as.foldl (fun d a => d.log (f a)) d) := by
  induction as generalizing d with
  | nil => exact refl
  | cons a as ih => exact (log (hf a)).trans ih

theorem createSampler (label : Option String) (state : SamplerState) :
    Serves d (d.createSampler label state).2 :=
  create (fun serial => .samplerCreated serial label state) rfl

theorem createBindGroupLayout (label : String) (entries : List LayoutEntry) :
    Serves d (d.createBindGroupLayout label entries).2 :=
  create (fun serial => .bindGroupLayoutCreated serial label entries) rfl

theorem createBindGroup (label : String) (layout : Nat) (entries : List GroupEntry) :
    Serves d (d.createBindGroup label layout entries).2 :=
  create (fun serial => .bindGroupCreated serial label layout entries) rfl

theorem createPipelineLayout (label : Option String) (layouts : List Nat) :
    Serves d (d.createPipelineLayout label layouts).2 :=
  create (fun serial => .pipelineLayoutCreated serial label layouts) rfl

end Serves

/-- What logging an event for each element of a list appends to the trace. -/
theorem trace_foldl_log {α : Type} (f : α → Event) (as : List α) :
    (as.foldl (fun d a => d.log (f a)) d).trace = d.trace ++ as.map f := by
  induction as generalizing d with
  | nil => simp
  | cons a as ih =>
    rw [List.foldl_cons, ih]
    simp [log]

/-! ## New events -/

/-- A later state of a device, with a property of every event in between. -/
def Appends (P : Event → Prop) (d d' : Device) : Prop :=
  ∃ new, d'.trace = d.trace ++ new ∧ ∀ e ∈ new, P e

namespace Appends

variable {P Q : Event → Prop}

theorem refl : Appends P d d := ⟨[], (List.append_nil _).symm, fun _ h => (nomatch h)⟩

theorem trans (h : Appends P d d') (h' : Appends P d' d'') : Appends P d d'' := by
  obtain ⟨new, htrace, hnew⟩ := h
  obtain ⟨new', htrace', hnew'⟩ := h'
  refine ⟨new ++ new', by rw [htrace', htrace, List.append_assoc], fun e he => ?_⟩
  rcases List.mem_append.1 he with he | he
  · exact hnew e he
  · exact hnew' e he

theorem imp (h : Appends P d d') (hpq : ∀ e, P e → Q e) : Appends Q d d' := by
  obtain ⟨new, htrace, hnew⟩ := h
  exact ⟨new, htrace, fun e he => hpq e (hnew e he)⟩

/-- One new event. -/
theorem single {e : Event} (htrace : d'.trace = d.trace ++ [e]) (he : P e) : Appends P d d' :=
  ⟨[e], htrace, fun _ h => List.mem_singleton.1 h ▸ he⟩

theorem same (htrace : d'.trace = d.trace) : Appends P d d' :=
  ⟨[], by rw [htrace, List.append_nil], fun _ h => (nomatch h)⟩

end Appends

/-! ## Views -/

/-- Makes a view of each of some ranges of a texture. -/
def createViews (label : Option String) (texture : Nat) : List ViewRange → Device →
    List View × Device
  | [], d => ([], d)
  | r :: rest, d =>
    let made := d.createView label texture r
    let others := createViews label texture rest made.2
    (made.1 :: others.1, others.2)

/-- A view that a device has made of a range of a texture: it shows that range of that texture. -/
structure HasView (d : Device) (label : Option String) (texture : Nat) (r : ViewRange)
    (v : View) : Prop where
  made : .viewCreated label v ∈ d.trace
  texture : v.texture = texture
  dimension : v.dimension = some r.dimension
  aspect : v.aspect = r.aspect
  baseMip : v.baseMip = r.baseMip
  mips : v.mips = some r.mips
  baseLayer : v.baseLayer = r.baseLayer
  layers : v.layers = some r.layers

variable {label : Option String} {texture : Nat} {r : ViewRange} {v : View}

/-- What is appended to the trace leaves the views. -/
theorem HasView.mono (h : d.HasView label texture r v) (hd : d.trace <+: d'.trace) :
    d'.HasView label texture r v := { h with made := hd.subset h.made }

theorem HasView.later (h : d.HasView label texture r v) (hd : d.Later d') :
    d'.HasView label texture r v := h.mono hd.trace

/-- What a view shows leaves only its serial open. -/
theorem HasView.eq (h : d.HasView label texture r v) : v = r.view v.serial texture := by
  obtain ⟨-, htexture, hdimension, haspect, hbaseMip, hmips, hbaseLayer, hlayers⟩ := h
  cases v
  simp_all [ViewRange.view]

/-- A view of a range that was made shows that range. -/
theorem HasView.of_eq (h : v = r.view v.serial texture) (hmade : .viewCreated label v ∈ d.trace) :
    d.HasView label texture r v := by
  rw [h] at hmade ⊢
  exact ⟨hmade, rfl, rfl, rfl, rfl, rfl, rfl, rfl⟩

theorem hasView_createView :
    (d.createView label texture r).2.HasView label texture r (d.createView label texture r).1 :=
  .of_eq rfl (List.mem_append_right _ (List.mem_singleton_self _))

variable {ranges : List ViewRange}

theorem Serves.createViews : d.Serves (d.createViews label texture ranges).2 := by
  induction ranges generalizing d with
  | nil => exact .refl
  | cons r ranges ih => exact (Serves.createView label texture r).trans ih

/-- There is a view for each range, in the order of the ranges. -/
theorem hasView_createViews :
    List.Forall₂ (fun r v => (d.createViews label texture ranges).2.HasView label texture r v) ranges
      (d.createViews label texture ranges).1 := by
  induction ranges generalizing d with
  | nil => exact .nil
  | cons r ranges ih => exact .cons (hasView_createView.later Serves.createViews.later) ih

theorem trace_createView : (d.createView label texture r).2.trace =
    d.trace ++ [.viewCreated label (d.createView label texture r).1] := rfl

theorem trace_createViews : (d.createViews label texture ranges).2.trace =
    d.trace ++ (d.createViews label texture ranges).1.map (.viewCreated label) := by
  induction ranges generalizing d with
  | nil => simp [createViews]
  | cons r ranges ih => simp [createViews, ih, trace_createView]

end Device

end PassForge
