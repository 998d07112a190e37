import PassForge.Proofs.Device
import PassForge.Proofs.Run
import PassForge.Resource.Sampler
import PassForge.Resource.Shader

/-!
# What happens to samplers and shaders

A sampler only ever gets its device sampler. A shader gets its interface, which is the one that its
entry point has, and its device module.

* `Sampler.Step` and `Shader.Step` list the changes; `Shader.Use` are those that need no module.
* `Sampler.Sound` and `Shader.Sound` say what is kept: the device sampler was asked for with the state
  of the sampler, and the interface is that of the entry point.
-/

namespace PassForge

/-! ## Samplers -/

namespace Sampler

variable {l l' : Live Sampler} {s : Sampler} {d d' : Device} {serial : Nat}

/-- A sampler and its device after the first use of the sampler. -/
def made (l : Live Sampler) : Live Sampler where
  object := { l.object with device := some l.device.nextSerial }
  device := (l.device.createSampler l.object.desc.label l.object.state).2

/-- A change of a sampler and its device. -/
inductive Step : Live Sampler → Live Sampler → Prop
  | make {l : Live Sampler} (h : l.object.device = none) : Step l (made l)

theorem handle_of_some (h : l.object.device = some serial) : handle l = .ok serial l := by
  unfold handle
  rw [Action.object_bind, h]
  rfl

theorem handle_of_none (h : l.object.device = none) :
    handle l = .ok l.device.nextSerial (made l) := by
  unfold handle
  rw [Action.object_bind, h]
  rfl

/-- The first use of a sampler makes the device sampler, which every use yields. -/
theorem handle_eq_ok (h : handle l = .ok serial l') :
    l'.object.device = some serial ∧ (l' = l ∨ l.object.device = none ∧ l' = made l) := by
  cases hd : l.object.device with
  | some serial' =>
    rw [handle_of_some hd] at h
    cases h
    exact ⟨hd, .inl rfl⟩
  | none =>
    rw [handle_of_none hd] at h
    cases h
    exact ⟨rfl, .inr ⟨rfl, rfl⟩⟩

/-- The device sampler is there already or is made now. -/
theorem exists_handle_eq_ok (l : Live Sampler) : ∃ serial l', handle l = .ok serial l' := by
  cases hd : l.object.device with
  | some serial => exact ⟨serial, l, handle_of_some hd⟩
  | none => exact ⟨_, _, handle_of_none hd⟩

theorem handle_runs : Runs Step handle := fun l => by
  cases hd : l.object.device with
  | some serial => exact .of_after (after_ok (handle_of_some hd)) .refl
  | none => exact .of_after (after_ok (handle_of_none hd)) (.single (.make hd))

theorem Step.serves (h : Step l l') : l.device.Serves l'.device := by
  cases h
  exact .createSampler ..

theorem Step.id (h : Step l l') : l'.object.id = l.object.id := by
  cases h
  rfl

/-- The device sampler was asked for with the state of the sampler. -/
structure Sound (s : Sampler) (d : Device) : Prop where
  created : ∀ serial, s.device = some serial →
    .samplerCreated serial s.desc.label s.state ∈ d.trace

theorem Sound.later (h : s.Sound d) (hd : d.Later d') : s.Sound d' :=
  ⟨fun serial hs => hd.mem (h.created serial hs)⟩

/-- A step makes a sampler sound. -/
theorem Step.sound (h : Step l l') : l'.object.Sound l'.device := by
  cases h
  refine ⟨fun serial hs => ?_⟩
  cases hs
  exact List.mem_append_right _ (List.mem_singleton_self _)

/-- A sampler without what its first use leaves on it. -/
def bare (s : Sampler) : Sampler := { s with device := none }

theorem Step.bare (h : Step l l') : l'.object.bare = l.object.bare := by
  cases h
  rfl

/-- The first use leaves the device sampler that is there. -/
theorem Step.device (h : Step l l') (hs : l.object.device = some serial) :
    l'.object.device = some serial := by
  cases h with
  | make hn => exact nomatch hn.symm.trans hs

end Sampler

/-! ## Shaders -/

namespace Shader

variable {l l' : Live Shader} {s : Shader}

/-- A shader and its device after the shader has got its module. -/
def made (l : Live Shader) : Live Shader where
  object := { l.object with device := some l.device.nextSerial }
  device := (l.device.createShaderModule l.object.label).2

/-- A change of a shader that makes no module: it gets its interface. -/
inductive Use : Live Shader → Live Shader → Prop
  | reflect {l : Live Shader} {i : ShaderInterface}
      (h : l.object.code.reflect l.object.entryPoint = .ok i) :
      Use l { l with object := { l.object with interface? := some i } }

/-- A change of a shader and its device. -/
inductive Step : Live Shader → Live Shader → Prop
  | use {l l' : Live Shader} (h : Use l l') : Step l l'
  | make {l : Live Shader} (h : l.object.device = none) : Step l (made l)

theorem handle_of_some {serial : Nat} (h : l.object.device = some serial) :
    handle l = .ok serial l := by
  unfold handle
  rw [Action.object_bind, h]
  rfl

theorem handle_of_none (h : l.object.device = none) :
    handle l = .ok l.device.nextSerial (made l) := by
  unfold handle
  rw [Action.object_bind, h]
  rfl

theorem handle_eq_ok {serial : Nat} (h : handle l = .ok serial l') : l' = l ∨ l' = made l := by
  cases hd : l.object.device with
  | some serial' =>
    rw [handle_of_some hd] at h
    cases h
    exact .inl rfl
  | none =>
    rw [handle_of_none hd] at h
    cases h
    exact .inr rfl

/-- After its module has been asked for, a shader has it. -/
theorem handle_device {serial : Nat} (h : handle l = .ok serial l') :
    l'.object.device = some serial := by
  cases hd : l.object.device with
  | some serial' =>
    rw [handle_of_some hd] at h
    cases h
    exact hd
  | none =>
    rw [handle_of_none hd] at h
    cases h
    rfl

/-- The module is there already or is made now. -/
theorem exists_handle_eq_ok (l : Live Shader) : ∃ serial l', handle l = .ok serial l' := by
  cases hd : l.object.device with
  | some serial => exact ⟨serial, l, handle_of_some hd⟩
  | none => exact ⟨_, _, handle_of_none hd⟩

theorem handle_runs : Runs Step handle := fun l => by
  cases hd : l.object.device with
  | some serial => exact .of_after (after_ok (handle_of_some hd)) .refl
  | none => exact .of_after (after_ok (handle_of_none hd)) (.single (.make hd))

theorem Step.later (h : Step l l') : l.device.Later l'.device := by
  cases h with
  | use h =>
    cases h
    exact .refl
  | make => exact .createShaderModule _

/-- A module that is there stays. -/
theorem Step.device {serial : Nat} (h : Step l l') (hs : l.object.device = some serial) :
    l'.object.device = some serial := by
  cases h with
  | use h =>
    cases h
    exact hs
  | make hn => exact nomatch hn.symm.trans hs

/-- The interface that a shader keeps is that of its entry point. -/
def Sound (s : Shader) : Prop :=
  ∀ i, s.interface? = some i → s.code.reflect s.entryPoint = .ok i

/-- A step keeps a shader sound. -/
theorem Step.sound (h : Step l l') (hl : l.object.Sound) : l'.object.Sound := by
  cases h with
  | use h =>
    cases h with
    | reflect hi =>
      intro i heq
      cases heq
      exact hi
  | make => exact hl

/-- A shader without the interface that it keeps. -/
def bare (s : Shader) : Shader := { s with interface? := none }

/-- A shader that is asked for its interface keeps it. -/
theorem reflect_eq_ok {s' : Shader} {i : ShaderInterface} (h : s.reflect = .ok (i, s')) :
    s' = s ∨ s.code.reflect s.entryPoint = .ok i ∧ s' = { s with interface? := some i } := by
  unfold reflect at h
  cases hi : s.interface? with
  | some j =>
    rw [hi] at h
    cases h
    exact .inl rfl
  | none =>
    rw [hi] at h
    cases hc : s.code.reflect s.entryPoint with
    | error e =>
      rw [hc] at h
      cases h
    | ok j =>
      rw [hc] at h
      cases h
      exact .inr ⟨rfl, rfl⟩

/-- The interface of a sound shader is that of its entry point, kept or not. -/
theorem reflect_eq (hs : s.Sound) :
    s.reflect = (s.code.reflect s.entryPoint).map fun i => (i, { s with interface? := some i }) := by
  unfold reflect
  cases h : s.interface? with
  | some i =>
    rw [hs i h]
    cases s
    cases h
    rfl
  | none =>
    cases s.code.reflect s.entryPoint <;> rfl

end Shader

end PassForge
