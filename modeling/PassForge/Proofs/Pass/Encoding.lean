import Mathlib
import PassForge.Proofs.Context.Bound
import PassForge.Proofs.Pass.Steps

/-!
# What recording a pass encodes

* `RenderPass.Records` and `ComputePass.Records` say which commands a pass consists of.
* `Context.Encodes`: up to its pass, recording encodes nothing else and calls handlers for the point
  before the pass only. `Context.Finishes`: after its pass, it encodes staging copies and calls
  handlers for the point after the pass only.
* `HookRuns` says how the hook of a compute pass ends that is called between the two.
* `recording_spec` is the whole statement, with every point at which recording can fail.
-/

namespace PassForge

open Context (Arrange Refresh)
open Relation (ReflTransGen)

variable {c c' c'' : Context} {id : ResourceId} {serial : Nat} {e : ResourceError}

/-! ## Commands -/

/-- The device buffer of a buffer. -/
def Store.DeviceBuffer (buffers : Store Buffer) (id : ResourceId) (serial : Nat) : Prop :=
  ∃ b, buffers.get? id = some b ∧ b.device = some serial

/-- The commands of a draw: an indexed draw binds its index buffer first. -/
inductive Draw.Records (buffers : Store Buffer) : Draw → List RenderCommand → Prop
  | vertices {count instances : Nat} : Records buffers (.vertices count instances) [.draw count instances]
  | indexed {index : ResourceId} {instances serial : Nat} {b : Buffer}
      (h : buffers.get? index = some b) (hs : b.device = some serial) :
      Records buffers (.indexed index instances)
        [.setIndexBuffer serial .uint32, .drawIndexed (b.size / 4 % UInt32.size) instances]
  | indirect {arguments : ResourceId} {serial : Nat} (h : buffers.DeviceBuffer arguments serial) :
      Records buffers (.indirect arguments) [.drawIndirect serial 0]
  | indexedIndirect {index arguments : ResourceId} {bound serial : Nat}
      (hi : buffers.DeviceBuffer index bound) (h : buffers.DeviceBuffer arguments serial) :
      Records buffers (.indexedIndirect index arguments)
        [.setIndexBuffer bound .uint32, .drawIndexedIndirect serial 0]
  | multiIndirect {arguments : ResourceId} {count serial : Nat}
      (h : buffers.DeviceBuffer arguments serial) :
      Records buffers (.multiIndirect arguments count) [.multiDrawIndirect serial 0 count]
  | multiIndexedIndirect {index arguments : ResourceId} {count bound serial : Nat}
      (hi : buffers.DeviceBuffer index bound) (h : buffers.DeviceBuffer arguments serial) :
      Records buffers (.multiIndexedIndirect index arguments count)
        [.setIndexBuffer bound .uint32, .multiDrawIndexedIndirect serial 0 count]

/-- The command of a dispatch. -/
inductive Dispatch.Records (buffers : Store Buffer) : Dispatch → ComputeCommand → Prop
  | workgroups {x y z : Nat} : Records buffers (.workgroups x y z) (.dispatch x y z)
  | indirect {arguments : ResourceId} {offset serial : Nat} (h : buffers.DeviceBuffer arguments serial) :
      Records buffers (.indirect arguments offset) (.dispatchIndirect serial offset)

/-- The commands of a render pass: its pipeline, its vertex buffers by slot, its bind groups by index,
and its draw. -/
def RenderPass.Records (r : RenderPass) (c : Context) (commands : List RenderCommand) : Prop :=
  ∃ serials draw, List.Forall₂ c.buffers.DeviceBuffer r.vertexBuffers serials ∧
    r.draw.Records c.buffers draw ∧
    commands = .setPipeline r.pipeline :: serials.mapIdx .setVertexBuffer ++
      r.bindGroups.mapIdx .setBindGroup ++ draw

/-- The commands of a compute pass: its pipeline, its bind groups by index, and its dispatch. -/
def ComputePass.Records (r : ComputePass) (c : Context) (commands : List ComputeCommand) : Prop :=
  ∃ dispatch, r.dispatch.Records c.buffers dispatch ∧
    commands = .setPipeline r.pipeline :: r.bindGroups.mapIdx .setBindGroup ++ [dispatch]

theorem Context.Arrange.keeps (h : Arrange c c') : c.buffers.Keeps Buffer.device c'.buffers := by
  cases h with
  | buffer h hl => exact .update h fun _ => hl.device
  | texture => exact .refl

/-- Making a pass ready leaves the device buffers that are there. -/
theorem Store.DeviceBuffer.later (h : c.buffers.DeviceBuffer id serial)
    (hc : ReflTransGen Arrange c c') : c'.buffers.DeviceBuffer id serial := by
  induction hc with
  | refl => exact h
  | tail _ hc ih =>
    obtain ⟨b, hb, hs⟩ := ih
    exact hc.keeps id b serial hb hs

/-- Using a buffer yields its device buffer. -/
theorem on_handle_eq_ok (h : Work.on .buffers id Buffer.handle c = .ok serial c') :
    c'.buffers.DeviceBuffer id serial := by
  obtain ⟨b, l, hb, hl, rfl⟩ := on_eq_ok h
  exact ⟨l.object, @Shelf.get?_put _ .buffers _ c id b l hb, (Buffer.handle_eq_ok hl).1⟩

/-- A command with two arguments of which the first is the result of some work. -/
theorem map_seq_pure_eq_ok {α : Type} {w : Work ResourceError Nat} {f : Nat → Nat → α} {n : Nat}
    {a : α} (h : (f <$> w <*> pure n) c = .ok a c') : ∃ m, w c = .ok m c' ∧ a = f m n := by
  rw [seq_eq_bind_map, map_eq_pure_bind, bind_assoc] at h
  obtain ⟨m, c₁, hw, h⟩ := bind_eq_ok h
  cases h
  exact ⟨m, hw, rfl⟩

theorem Draw.commands_records {d : Draw} {commands : List RenderCommand}
    (h : d.commands c = .ok commands c') : d.Records c'.buffers commands := by
  cases d with
  | vertices count instances =>
    cases h
    exact .vertices
  | indexed index instances =>
    simp only [Draw.commands, Draw.index?, pure_bind] at h
    obtain ⟨serial, c₁, hindex, h⟩ := bind_eq_ok h
    obtain ⟨b, hb, hs⟩ := on_handle_eq_ok hindex
    rw [bind_of_ok (find_of_some hb)] at h
    cases h
    exact .indexed hb hs
  | indirect arguments =>
    simp only [Draw.commands, Draw.index?, pure_bind] at h
    obtain ⟨command, c₁, hcommand, h⟩ := bind_eq_ok h
    obtain ⟨serial, hw, rfl⟩ := map_seq_pure_eq_ok hcommand
    cases h
    exact .indirect (on_handle_eq_ok hw)
  | indexedIndirect index arguments =>
    simp only [Draw.commands, Draw.index?, pure_bind] at h
    obtain ⟨bound, c₁, hindex, h⟩ := bind_eq_ok h
    obtain ⟨command, c₂, hcommand, h⟩ := bind_eq_ok h
    obtain ⟨serial, hw, rfl⟩ := map_seq_pure_eq_ok hcommand
    cases h
    have harrange : ReflTransGen Arrange c₁ c' := Work.bufferHandle_arranges.of_eq_ok hw
    exact .indexedIndirect ((on_handle_eq_ok hindex).later harrange) (on_handle_eq_ok hw)
  | multiIndirect arguments count =>
    simp only [Draw.commands, Draw.index?, pure_bind] at h
    obtain ⟨serial, c₁, hw, h⟩ := bind_eq_ok h
    cases h
    exact .multiIndirect (on_handle_eq_ok hw)
  | multiIndexedIndirect index arguments count =>
    simp only [Draw.commands, Draw.index?, pure_bind] at h
    obtain ⟨bound, c₁, hindex, h⟩ := bind_eq_ok h
    obtain ⟨serial, c₂, hw, h⟩ := bind_eq_ok h
    cases h
    have harrange : ReflTransGen Arrange c₁ c' := Work.bufferHandle_arranges.of_eq_ok hw
    exact .multiIndexedIndirect ((on_handle_eq_ok hindex).later harrange) (on_handle_eq_ok hw)

theorem Dispatch.command_records {d : Dispatch} {command : ComputeCommand}
    (h : d.command c = .ok command c') : d.Records c'.buffers command := by
  cases d with
  | workgroups x y z =>
    cases h
    exact .workgroups
  | indirect arguments offset =>
    obtain ⟨serial, c₁, hw, h⟩ := bind_eq_ok h
    cases h
    exact .indirect (on_handle_eq_ok hw)

theorem RenderPass.commands_records {r : RenderPass} {commands : List RenderCommand}
    (h : r.commands c = .ok commands c') : r.Records c' commands := by
  obtain ⟨serials, c₁, hserials, h⟩ := bind_eq_ok h
  obtain ⟨draw, c₂, hdraw, h⟩ := bind_eq_ok h
  cases h
  have hbuffers : List.Forall₂ c₁.buffers.DeviceBuffer r.vertexBuffers serials :=
    forall₂_of_mapM (I := fun _ => True) (P := fun id serial c => c.buffers.DeviceBuffer id serial)
      (fun _ => Work.bufferHandle_arranges) (fun _ _ _ _ => trivial)
      (fun _ _ _ _ hc h => h.later hc) (fun _ _ _ _ _ _ h => on_handle_eq_ok h) trivial hserials
  have harrange : ReflTransGen Arrange c₁ c' := r.draw.commands_arranges.of_eq_ok hdraw
  refine ⟨serials, draw, hbuffers.imp fun _ _ h => h.later harrange, Draw.commands_records hdraw, ?_⟩
  simp [List.mapIdx_eq_zipIdx_map]

theorem ComputePass.commands_records {r : ComputePass} {commands : List ComputeCommand}
    (h : r.commands c = .ok commands c') : r.Records c' commands := by
  obtain ⟨dispatch, c₁, hdispatch, h⟩ := bind_eq_ok h
  cases h
  refine ⟨dispatch, Dispatch.command_records hdispatch, ?_⟩
  simp [List.mapIdx_eq_zipIdx_map]

/-! ## Stages of a recording -/

theorem Device.Appends.encoded {P : Event → Prop} {d d' : Device} (h : d.Appends P d')
    (hp : ∀ e, P e → e.isEncoded = false) : d'.encoded = d.encoded := by
  obtain ⟨new, htrace, hnew⟩ := h
  unfold Device.encoded
  rw [htrace, List.filter_append,
    List.filter_eq_nil_iff.2 fun e he => Bool.eq_false_iff.1 (hp e (hnew e he)), List.append_nil]

namespace Context

variable {mid : Context} {pass : Event}

/-- Up to a pass, which is the last thing that happens, nothing is encoded and no handler is called
for the point after the pass. -/
def Encodes (c mid : Context) (pass : Event) : Prop :=
  ∃ before, mid.device.trace = c.device.trace ++ before ++ [pass] ∧
    ∀ e ∈ before, e.isEncoded = false ∧ e.calledAt? ≠ some .after

/-- Nothing is encoded but copies of map buffers into their staging buffers, and no handler is called
for the point before the pass. -/
def Finishes (c c' : Context) : Prop :=
  c.device.Appends (fun e => (e.isEncoded → c'.StagingCopy e) ∧ e.calledAt? ≠ some .before) c'.device

theorem Synced.encoded (h : Synced .before c c') : c'.device.encoded = c.device.encoded :=
  h.events.encoded fun _ he => he.not_encoded

theorem Synced.finishes (h : Synced .after c c') : c.Finishes c' :=
  h.events.imp fun _ he => ⟨fun hencoded => (he.2 hencoded).2, fun hcall => nomatch he.1 _ hcall⟩

theorem encoded_of_arranges (h : ReflTransGen Arrange c c') :
    c'.device.encoded = c.device.encoded := (quiet_of_arranges h).encoded fun _ he => he.1

/-- Bringing resources up to date, making the pass ready and putting it into the encoder. -/
theorem Encodes.of_synced (h : Synced .before c c') (ha : ReflTransGen Arrange c' c'')
    (pass : Event) : c.Encodes { c'' with device := c''.device.log pass } pass := by
  have hsync : c.device.Appends (fun e => e.isEncoded = false ∧ e.calledAt? ≠ some .after)
      c'.device :=
    h.events.imp fun _ he => ⟨he.not_encoded, fun hcall => nomatch he.1 _ hcall⟩
  obtain ⟨before, htrace, hbefore⟩ := hsync.trans
    ((quiet_of_arranges ha).imp fun e he => ⟨he.1, fun hcall => nomatch he.2.symm.trans hcall⟩)
  exact ⟨before, by rw [← htrace]; rfl, hbefore⟩

theorem Encodes.encoded (h : c.Encodes mid pass) (hp : pass.isEncoded) :
    mid.device.encoded = c.device.encoded ++ [pass] := by
  obtain ⟨before, htrace, hbefore⟩ := h
  have hnone : before.filter Event.isEncoded = [] :=
    List.filter_eq_nil_iff.2 fun e he => Bool.eq_false_iff.1 (hbefore e he).1
  simp [Device.encoded, htrace, hnone, hp]

theorem Finishes.encoded (h : c.Finishes c') : ∃ copies,
    c'.device.encoded = c.device.encoded ++ copies ∧ ∀ e ∈ copies, c'.StagingCopy e := by
  obtain ⟨after, htrace, hafter⟩ := h
  refine ⟨after.filter Event.isEncoded, by simp [Device.encoded, htrace], fun e he => ?_⟩
  obtain ⟨hmem, hencoded⟩ := List.mem_filter.1 he
  exact (hafter e hmem).1 hencoded

end Context

theorem SyncPlan.run_synced {s : SyncPlan} {p : SyncPoint} {u : Unit} (h : s.run p c = .ok u c') :
    Context.Synced p c c' := after_ok h ▸ Context.synced_of_refreshes (s.run_refreshes p c)

theorem SyncPlan.run_synced_error {s : SyncPlan} {p : SyncPoint} (h : s.run p c = .error e c') :
    Context.Synced p c c' := after_error h ▸ Context.synced_of_refreshes (s.run_refreshes p c)

/-! ## Recording -/

namespace RenderPass

variable {r : RenderPass}

theorem encode_eq_ok {u : Unit} (h : r.encode c = .ok u c') : ∃ colors depth commands c₁,
    ReflTransGen Arrange c c₁ ∧ r.Records c₁ commands ∧
      c' = { c₁ with device := c₁.device.log (.renderPass r.label colors depth commands) } := by
  rw [encode_eq] at h
  obtain ⟨⟨colors, depth, commands⟩, c₁, hparts, hlog⟩ := bind_eq_ok h
  have harrange : ReflTransGen Arrange c c₁ := r.parts_arranges.of_eq_ok hparts
  obtain ⟨_, c₂, -, hparts⟩ := bind_eq_ok hparts
  obtain ⟨_, c₃, -, hparts⟩ := bind_eq_ok hparts
  obtain ⟨_, c₄, hcommands, hpure⟩ := bind_eq_ok hparts
  cases hpure
  cases hlog
  exact ⟨colors, depth, commands, c₁, harrange, commands_records hcommands, rfl⟩

theorem encode_eq_error (h : r.encode c = .error e c') : ReflTransGen Arrange c c' := by
  rw [encode_eq] at h
  obtain h | ⟨_, _, -, h⟩ := bind_eq_error h
  · exact r.parts_arranges.of_eq_error h
  · cases h

theorem build_of_nil (h : r.colors = []) : r.build = r.sync.run .before := by
  simp [build, h]

theorem build_of_ne (h : r.colors ≠ []) : r.build = (do
    r.sync.run .before
    r.encode
    r.sync.run .after) := by
  simp [build, h]

/-- Up to and with its pass. -/
theorem encodes {c₁ mid : Context} {u v : Unit} (hs : r.sync.run .before c = .ok u c₁)
    (h : r.encode c₁ = .ok v mid) : ∃ colors depth commands,
      c.Encodes mid (.renderPass r.label colors depth commands) ∧ r.Records mid commands := by
  obtain ⟨colors, depth, commands, c₂, harrange, hrecords, rfl⟩ := encode_eq_ok h
  exact ⟨colors, depth, commands, .of_synced (SyncPlan.run_synced hs) harrange _, hrecords⟩

/-- What recording a pass with colour attachments encodes. -/
theorem build_eq_ok {u : Unit} (hcolors : r.colors ≠ []) (h : r.build c = .ok u c') :
    ∃ mid colors depth commands, c.Encodes mid (.renderPass r.label colors depth commands) ∧
      r.Records mid commands ∧ r.sync.run .after mid = .ok u c' ∧ mid.Finishes c' := by
  rw [build_of_ne hcolors] at h
  obtain ⟨u, c₁, hbefore, h⟩ := bind_eq_ok h
  obtain ⟨v, mid, hencode, hafter⟩ := bind_eq_ok h
  obtain ⟨colors, depth, commands, hpass, hrecords⟩ := encodes hbefore hencode
  exact ⟨mid, colors, depth, commands, hpass, hrecords, hafter,
    (SyncPlan.run_synced hafter).finishes⟩

theorem build_error_before (h : r.sync.run .before c = .error e c') :
    r.build c = .error e c' ∧ c'.device.encoded = c.device.encoded := by
  refine ⟨?_, (SyncPlan.run_synced_error h).encoded⟩
  by_cases hcolors : r.colors = []
  · rw [build_of_nil hcolors, h]
  · rw [build_of_ne hcolors, bind_of_error h]

theorem build_error_encode {u : Unit} {c₁ : Context} (hcolors : r.colors ≠ [])
    (hs : r.sync.run .before c = .ok u c₁) (h : r.encode c₁ = .error e c') :
    r.build c = .error e c' ∧ c'.device.encoded = c.device.encoded := by
  refine ⟨?_, (Context.encoded_of_arranges (encode_eq_error h)).trans
    (SyncPlan.run_synced hs).encoded⟩
  rw [build_of_ne hcolors, bind_of_ok hs, bind_of_error h]

/-- If recording fails, it fails before its pass is encoded or in the synchronisation after it. -/
theorem build_eq_error (h : r.build c = .error e c') : c'.device.encoded = c.device.encoded ∨
    r.colors ≠ [] ∧ ∃ mid colors depth commands,
      c.Encodes mid (.renderPass r.label colors depth commands) ∧ r.Records mid commands ∧
      r.sync.run .after mid = .error e c' ∧ mid.Finishes c' := by
  by_cases hcolors : r.colors = []
  · rw [build_of_nil hcolors] at h
    exact .inl (SyncPlan.run_synced_error h).encoded
  · rw [build_of_ne hcolors] at h
    obtain h | ⟨u, c₁, hbefore, h⟩ := bind_eq_error h
    · exact .inl (SyncPlan.run_synced_error h).encoded
    · obtain h | ⟨v, mid, hencode, hafter⟩ := bind_eq_error h
      · exact .inl (build_error_encode hcolors hbefore h).2
      · obtain ⟨colors, depth, commands, hpass, hrecords⟩ := encodes hbefore hencode
        exact .inr ⟨hcolors, mid, colors, depth, commands, hpass, hrecords, hafter,
          (SyncPlan.run_synced_error hafter).finishes⟩

end RenderPass

/-- How the hook of a compute pass ends: without one nothing is done, and otherwise it is run once, with
its call in the trace. -/
inductive HookRuns : Option Hook → Context → EStateM.Result ResourceError Context Unit → Prop
  | absent {c : Context} : HookRuns none c (.ok () c)
  | called {hook : Hook} {c : Context} :
      HookRuns (some hook) c (hook { c with device := c.device.log .hookCalled })

namespace ComputePass

variable {r : ComputePass}

theorem runHook_runs (r : ComputePass) (c : Context) : HookRuns r.hook c (r.runHook c) := by
  unfold runHook
  cases r.hook with
  | none => exact .absent
  | some hook => exact .called

theorem encode_eq_ok {u : Unit} (h : r.encode c = .ok u c') : ∃ commands c₁,
    ReflTransGen Arrange c c₁ ∧ r.Records c₁ commands ∧
      c' = { c₁ with device := c₁.device.log (.computePass r.label commands) } := by
  obtain ⟨commands, c₁, hcommands, hlog⟩ := bind_eq_ok h
  cases hlog
  exact ⟨commands, c₁, r.commands_arranges.of_eq_ok hcommands, commands_records hcommands, rfl⟩

theorem encode_eq_error (h : r.encode c = .error e c') : ReflTransGen Arrange c c' := by
  obtain h | ⟨_, _, -, h⟩ := bind_eq_error h
  · exact r.commands_arranges.of_eq_error h
  · cases h

/-- Up to and with its pass. -/
theorem encodes {c₁ mid : Context} {u v : Unit} (hs : r.sync.run .before c = .ok u c₁)
    (h : r.encode c₁ = .ok v mid) : ∃ commands,
      c.Encodes mid (.computePass r.label commands) ∧ r.Records mid commands := by
  obtain ⟨commands, c₂, harrange, hrecords, rfl⟩ := encode_eq_ok h
  exact ⟨commands, .of_synced (SyncPlan.run_synced hs) harrange _, hrecords⟩

/-- What recording a pass encodes, before and after its hook. -/
theorem build_eq_ok {u : Unit} (h : r.build c = .ok u c') :
    ∃ mid late commands, c.Encodes mid (.computePass r.label commands) ∧ r.Records mid commands ∧
      HookRuns r.hook mid (.ok () late) ∧ r.sync.run .after late = .ok u c' ∧
      late.Finishes c' := by
  obtain ⟨u, c₁, hbefore, h⟩ := bind_eq_ok h
  obtain ⟨v, mid, hencode, h⟩ := bind_eq_ok h
  obtain ⟨w, late, hhook, hafter⟩ := bind_eq_ok h
  obtain ⟨commands, hpass, hrecords⟩ := encodes hbefore hencode
  exact ⟨mid, late, commands, hpass, hrecords, hhook ▸ r.runHook_runs mid, hafter,
    (SyncPlan.run_synced hafter).finishes⟩

theorem build_error_before (h : r.sync.run .before c = .error e c') :
    r.build c = .error e c' ∧ c'.device.encoded = c.device.encoded :=
  ⟨bind_of_error h, (SyncPlan.run_synced_error h).encoded⟩

theorem build_error_encode {u : Unit} {c₁ : Context} (hs : r.sync.run .before c = .ok u c₁)
    (h : r.encode c₁ = .error e c') :
    r.build c = .error e c' ∧ c'.device.encoded = c.device.encoded := by
  refine ⟨(bind_of_ok hs).trans (bind_of_error h), ?_⟩
  exact (Context.encoded_of_arranges (encode_eq_error h)).trans (SyncPlan.run_synced hs).encoded

/-- If recording fails, it fails before its pass is encoded, in the hook, or in the synchronisation
after that. -/
theorem build_eq_error (h : r.build c = .error e c') : c'.device.encoded = c.device.encoded ∨
    ∃ mid commands, c.Encodes mid (.computePass r.label commands) ∧ r.Records mid commands ∧
      (HookRuns r.hook mid (.error e c') ∨ ∃ late, HookRuns r.hook mid (.ok () late) ∧
        r.sync.run .after late = .error e c' ∧ late.Finishes c') := by
  obtain h | ⟨u, c₁, hbefore, h⟩ := bind_eq_error h
  · exact .inl (SyncPlan.run_synced_error h).encoded
  obtain h | ⟨v, mid, hencode, h⟩ := bind_eq_error h
  · exact .inl (build_error_encode hbefore h).2
  obtain ⟨commands, hpass, hrecords⟩ := encodes hbefore hencode
  refine .inr ⟨mid, commands, hpass, hrecords, ?_⟩
  obtain h | ⟨w, late, hhook, hafter⟩ := bind_eq_error h
  · exact .inl (h ▸ r.runHook_runs mid)
  · exact .inr ⟨late, hhook ▸ r.runHook_runs mid, hafter,
      (SyncPlan.run_synced_error hafter).finishes⟩

end ComputePass

/-- **What recording a pass encodes**, whatever the pass, the context and the contents of the encoder.

A render pass without colour attachments is not encoded. Any other is encoded as one pass, between
two synchronisations of which the first encodes nothing and the second only staging copies. A compute
pass is encoded as one pass too; its hook, if it has one, runs once after that and before the second
synchronisation.
Handlers are called for a point of the pass in the synchronisation at that point only. If recording
fails up to the pass, the encoder is left as it was; it can fail later only in the hook and in the
second synchronisation. -/
theorem recording_spec :
    (∀ (r : RenderPass) (c : Context),
      (r.colors = [] → r.build c = r.sync.run .before c ∧
        (after r.build c).device.encoded = c.device.encoded) ∧
      (∀ u c', r.colors ≠ [] → r.build c = .ok u c' → ∃ mid colors depth commands copies,
        c.Encodes mid (.renderPass r.label colors depth commands) ∧ r.Records mid commands ∧
        r.sync.run .after mid = .ok u c' ∧ mid.Finishes c' ∧
        c'.device.encoded =
          c.device.encoded ++ .renderPass r.label colors depth commands :: copies ∧
        ∀ e ∈ copies, c'.StagingCopy e) ∧
      (∀ e c', r.sync.run .before c = .error e c' →
        r.build c = .error e c' ∧ c'.device.encoded = c.device.encoded) ∧
      (∀ u c₁ e c', r.colors ≠ [] → r.sync.run .before c = .ok u c₁ → r.encode c₁ = .error e c' →
        r.build c = .error e c' ∧ c'.device.encoded = c.device.encoded) ∧
      ∀ e c', r.build c = .error e c' → c'.device.encoded = c.device.encoded ∨
        r.colors ≠ [] ∧ ∃ mid colors depth commands,
          c.Encodes mid (.renderPass r.label colors depth commands) ∧ r.Records mid commands ∧
          r.sync.run .after mid = .error e c' ∧ mid.Finishes c') ∧
    ∀ (r : ComputePass) (c : Context),
      (∀ u c', r.build c = .ok u c' → ∃ mid late commands copies,
        c.Encodes mid (.computePass r.label commands) ∧ r.Records mid commands ∧
        mid.device.encoded = c.device.encoded ++ [.computePass r.label commands] ∧
        HookRuns r.hook mid (.ok () late) ∧ r.sync.run .after late = .ok u c' ∧
        late.Finishes c' ∧
        c'.device.encoded = late.device.encoded ++ copies ∧ ∀ e ∈ copies, c'.StagingCopy e) ∧
      (∀ e c', r.sync.run .before c = .error e c' →
        r.build c = .error e c' ∧ c'.device.encoded = c.device.encoded) ∧
      (∀ u c₁ e c', r.sync.run .before c = .ok u c₁ → r.encode c₁ = .error e c' →
        r.build c = .error e c' ∧ c'.device.encoded = c.device.encoded) ∧
      ∀ e c', r.build c = .error e c' → c'.device.encoded = c.device.encoded ∨
        ∃ mid commands, c.Encodes mid (.computePass r.label commands) ∧ r.Records mid commands ∧
          (HookRuns r.hook mid (.error e c') ∨ ∃ late, HookRuns r.hook mid (.ok () late) ∧
            r.sync.run .after late = .error e c' ∧ late.Finishes c') := by
  refine ⟨fun r c => ⟨fun hcolors => ?_, fun u c' hcolors h => ?_,
      fun e c' h => RenderPass.build_error_before h,
      fun u c₁ e c' hcolors hs h => RenderPass.build_error_encode hcolors hs h,
      fun e c' h => RenderPass.build_eq_error h⟩,
    fun r c => ⟨fun u c' h => ?_, fun e c' h => ComputePass.build_error_before h,
      fun u c₁ e c' hs h => ComputePass.build_error_encode hs h,
      fun e c' h => ComputePass.build_eq_error h⟩⟩
  · rw [RenderPass.build_of_nil hcolors]
    exact ⟨rfl, (Context.synced_of_refreshes (r.sync.run_refreshes .before c)).encoded⟩
  · obtain ⟨mid, colors, depth, commands, hpass, hrecords, hafter, hfinish⟩ :=
      r.build_eq_ok hcolors h
    obtain ⟨copies, hencoded, hcopies⟩ := hfinish.encoded
    refine ⟨mid, colors, depth, commands, copies, hpass, hrecords, hafter, hfinish, ?_, hcopies⟩
    rw [hencoded, hpass.encoded rfl, List.append_assoc]
    rfl
  · obtain ⟨mid, late, commands, hpass, hrecords, hhook, hafter, hfinish⟩ := r.build_eq_ok h
    obtain ⟨copies, hencoded, hcopies⟩ := hfinish.encoded
    exact ⟨mid, late, commands, copies, hpass, hrecords, hpass.encoded rfl, hhook, hafter, hfinish,
      hencoded, hcopies⟩

namespace MapBuffer

/-- Creates a vertex buffer, a map buffer, the texture of the surface with an attachment on it, and a
texture with two mips. -/
def setup : Work ResourceError Unit := do
  let _ ← Work.createBuffer .vertex { size := 48 }
  let _ ← Work.createBuffer .map { size := 16 }
  let _ ← Work.createSurfaceTexture none
  let _ ← Work.createColorAttachment
    { texture := ⟨3⟩, options := { clearColor := ⟨⟨0⟩, ⟨0⟩, ⟨0⟩, ⟨0⟩⟩ } }
  let _ ← Work.createStorageTexture2d { width := 8, height := 8, mips := some 2 }

/-- The context with these resources. -/
def context : Context := after setup (.start {})

/-- A render pass that reads the vertex buffer and brings both buffers up to date. -/
def render : RenderPass where
  label := none
  pipelineId := ⟨6⟩
  pipeline := 3
  vertexBuffers := [⟨1⟩]
  bindGroups := []
  colors := [⟨4⟩]
  depth := none
  draw := .vertices 3 1
  sync := { otherBuffers := [⟨1⟩, ⟨2⟩] }

/-- Copies the second mip of the texture into the first. -/
def hook : Hook := Work.copyTexture ⟨5⟩ 1 ⟨5⟩ 0

/-- A compute pass with this hook that brings both buffers up to date. -/
def compute : ComputePass where
  label := none
  pipelineId := ⟨6⟩
  pipeline := 3
  bindGroups := []
  dispatch := .workgroups 1 1 1
  hook := some hook
  sync := { otherBuffers := [⟨1⟩, ⟨2⟩] }

end MapBuffer

/-- The map buffer is copied after the pass, and if that is a compute pass after what its hook
encodes. -/
theorem recording_mapBuffer :
    (∃ c' colors depth commands copy, MapBuffer.render.build MapBuffer.context = .ok () c' ∧
      c'.device.encoded = [.renderPass none colors depth commands, copy] ∧ c'.StagingCopy copy) ∧
    ∃ (mid late c' : Context) (commands : List ComputeCommand) (copies : List Event),
      MapBuffer.compute.build MapBuffer.context = .ok () c' ∧
      mid.device.encoded = [.computePass none commands] ∧
      MapBuffer.hook { mid with device := mid.device.log .hookCalled } = .ok () late ∧
      c'.device.encoded = late.device.encoded ++ copies ∧ (∀ e ∈ copies, c'.StagingCopy e) ∧
      c'.device.encoded = [.computePass none [.setPipeline 3, .dispatch 1 1 1],
        .textureCopied 5 1 5 0 4 4, .bufferCopied 4 6 16] ∧
      c'.device.trace.count .hookCalled = 1 := by
  have hempty : MapBuffer.context.device.encoded = [] := by cbv
  constructor
  · have hout : outcome MapBuffer.render.build MapBuffer.context = .ok () := by cbv
    have hlength : (after MapBuffer.render.build MapBuffer.context).device.encoded.length = 2 := by
      cbv
    obtain ⟨mid, colors, depth, commands, copies, -, -, -, -, hencoded, hcopies⟩ :=
      (recording_spec.1 MapBuffer.render MapBuffer.context).2.1 _ _ (by decide)
        (eq_ok_of_outcome hout)
    rw [hempty, List.nil_append] at hencoded
    rw [hencoded, List.length_cons, Nat.add_right_cancel_iff, List.length_eq_one_iff] at hlength
    obtain ⟨copy, rfl⟩ := hlength
    exact ⟨_, colors, depth, commands, copy, eq_ok_of_outcome hout, hencoded,
      hcopies copy (by simp)⟩
  · have hout : outcome MapBuffer.compute.build MapBuffer.context = .ok () := by cbv
    obtain ⟨mid, late, commands, copies, -, -, hmid, hhook, -, -, hencoded, hcopies⟩ :=
      (recording_spec.2 MapBuffer.compute MapBuffer.context).1 _ _ (eq_ok_of_outcome hout)
    rw [hempty, List.nil_append] at hmid
    -- The end of the hook is no variable, which `cases` needs it to be.
    generalize hend : EStateM.Result.ok () late = ended at hhook
    cases hhook
    exact ⟨mid, late, _, commands, copies, eq_ok_of_outcome hout, hmid, hend.symm, hencoded,
      hcopies, by cbv, by cbv⟩

end PassForge
