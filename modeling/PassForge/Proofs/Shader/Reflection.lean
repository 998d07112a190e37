import PassForge.Proofs.Enumeration
import PassForge.Proofs.Shader.Usage
import PassForge.Shader.Reflect

/-!
# What reflection reports

`ShaderModule.reflect` finds the used globals, classifies them, sorts what it reports and stops at the
first global that it cannot classify. All of this is described here without following the code.

* `Global.StandsFor`, `Global.Unbindable`: the kind of resource that a global stands for, or why there
  is none. `resourceKind` decides between them.
* `ShaderModule.Needs`: a global that is bound and that the entry point uses. Only these matter.
* `ShaderModule.ReportsAll`: bindings that report each of a list of globals once, by group and binding.
* `reflect_spec`: what is reported, when reflection fails, and with which global.
-/

namespace PassForge

/-! ## Kinds of resources -/

/-- What a bound global stands for. -/
inductive Global.StandsFor (g : Global) : ResourceKind → Prop where
  | uniformBuffer : g.space = .uniform → g.StandsFor .uniformBuffer
  | storageBuffer {writable : Bool} : g.space = .storage writable →
      g.StandsFor (.storageBuffer !writable)
  | sampler {comparison : Bool} : g.space = .handle → g.type = .sampler comparison →
      g.StandsFor (.sampler comparison)
  | sampledTexture {shape : ImageShape} {kind : ScalarKind} {multisampled : Bool}
      {dimension : ViewDimension} {sample : SampleKind} : g.space = .handle →
      g.type = .image shape (.sampled kind multisampled) → shape.dimension? = some dimension →
      kind.sample? = some sample → g.StandsFor (.texture dimension sample multisampled)
  | depthTexture {shape : ImageShape} {multisampled : Bool} {dimension : ViewDimension} :
      g.space = .handle → g.type = .image shape (.depth multisampled) →
      shape.dimension? = some dimension → g.StandsFor (.texture dimension .depth multisampled)
  | storageTexture {shape : ImageShape} {format : String} {access : TexelAccess}
      {dimension : ViewDimension} : g.space = .handle →
      g.type = .image shape (.storage format access) → shape.dimension? = some dimension →
      g.StandsFor (.storageTexture dimension (.ofTexelAccess access) (texelFormatTitle format))

/-- Why a global cannot be bound: for its address space, its texture shape or its type. -/
inductive Global.Unbindable (g : Global) : BindingFault → Prop where
  | addressSpace : g.space = .invocation ∨ g.space = .workgroup ∨ g.space = .pushConstant →
      g.Unbindable .addressSpace
  /-- Whatever the texels are, there are no arrays of textures of one dimension. -/
  | textureArray1d {what : ImageClass} : g.space = .handle → g.type = .image .d1Array what →
      g.Unbindable .textureArray1d
  | sampleType {shape : ImageShape} {multisampled : Bool} : g.space = .handle →
      g.type = .image shape (.sampled .bool multisampled) → shape ≠ .d1Array →
      g.Unbindable .sampleType
  | bindingArray {element : ShaderType} {length : Option Nat} : g.space = .handle →
      g.type = .bindingArray element length → g.Unbindable .bindingArray
  | opaqueType : g.space = .handle → (∀ comparison, g.type ≠ .sampler comparison) →
      (∀ shape what, g.type ≠ .image shape what) →
      (∀ element length, g.type ≠ .bindingArray element length) → g.Unbindable .opaqueType

theorem ImageShape.dimension?_eq_none_iff {shape : ImageShape} :
    shape.dimension? = none ↔ shape = .d1Array := by
  cases shape <;> simp [dimension?]

theorem ScalarKind.sample?_eq_none_iff {kind : ScalarKind} : kind.sample? = none ↔ kind = .bool := by
  cases kind <;> simp [sample?]

namespace Global

variable {g : Global}

theorem StandsFor.resourceKind_eq {kind : ResourceKind} (h : g.StandsFor kind) :
    g.resourceKind = .ok kind := by
  cases h <;> simp [resourceKind, ShaderType.handleKind, *]

theorem Unbindable.resourceKind_eq {fault : BindingFault} (h : g.Unbindable fault) :
    g.resourceKind = .error fault := by
  cases h with
  | addressSpace hspace => rcases hspace with h | h | h <;> simp [resourceKind, h]
  | textureArray1d hspace htype =>
    simp [resourceKind, ShaderType.handleKind, hspace, htype, ImageShape.dimension?]
  | @sampleType shape _ hspace htype hshape =>
    cases hdim : shape.dimension? with
    | none => exact absurd (ImageShape.dimension?_eq_none_iff.1 hdim) hshape
    | some d =>
      simp [resourceKind, ShaderType.handleKind, hspace, htype, hdim, ScalarKind.sample?]
  | bindingArray hspace htype => simp [resourceKind, ShaderType.handleKind, hspace, htype]
  | opaqueType hspace hsampler himage harray =>
    simp only [resourceKind, hspace]
    cases htype : g.type with
    | sampler c => exact absurd htype (hsampler c)
    | image shape what => exact absurd htype (himage shape what)
    | bindingArray t n => exact absurd htype (harray t n)
    | _ => rfl

/-- Every global stands for a kind of resource, or cannot be bound for a reason. -/
theorem exists_standsFor_or_unbindable (g : Global) :
    (∃ kind, g.StandsFor kind) ∨ ∃ fault, g.Unbindable fault := by
  cases hspace : g.space with
  | uniform => exact .inl ⟨_, .uniformBuffer hspace⟩
  | storage writable => exact .inl ⟨_, .storageBuffer hspace⟩
  | invocation => exact .inr ⟨_, .addressSpace (.inl hspace)⟩
  | workgroup => exact .inr ⟨_, .addressSpace (.inr (.inl hspace))⟩
  | pushConstant => exact .inr ⟨_, .addressSpace (.inr (.inr hspace))⟩
  | handle =>
    cases htype : g.type with
    | sampler c => exact .inl ⟨_, .sampler hspace htype⟩
    | bindingArray t n => exact .inr ⟨_, .bindingArray hspace htype⟩
    | image shape what =>
      cases hdim : shape.dimension? with
      | none =>
        rw [ImageShape.dimension?_eq_none_iff.1 hdim] at htype
        exact .inr ⟨_, .textureArray1d hspace htype⟩
      | some d =>
        cases what with
        | depth ms => exact .inl ⟨_, .depthTexture hspace htype hdim⟩
        | storage format access => exact .inl ⟨_, .storageTexture hspace htype hdim⟩
        | sampled kind ms =>
          cases hsample : kind.sample? with
          | some s => exact .inl ⟨_, .sampledTexture hspace htype hdim hsample⟩
          | none =>
            rw [ScalarKind.sample?_eq_none_iff.1 hsample] at htype
            have hshape : shape ≠ .d1Array := fun h => by
              rw [ImageShape.dimension?_eq_none_iff.2 h] at hdim
              cases hdim
            exact .inr ⟨_, .sampleType hspace htype hshape⟩
    | _ => exact .inr ⟨_, .opaqueType hspace (by simp [htype]) (by simp [htype]) (by simp [htype])⟩

theorem resourceKind_eq_ok_iff {kind : ResourceKind} :
    g.resourceKind = .ok kind ↔ g.StandsFor kind := by
  refine ⟨fun h => ?_, StandsFor.resourceKind_eq⟩
  obtain ⟨kind', h'⟩ | ⟨fault, h'⟩ := g.exists_standsFor_or_unbindable
  · rw [h'.resourceKind_eq] at h
    cases h
    exact h'
  · rw [h'.resourceKind_eq] at h
    cases h

theorem resourceKind_eq_error_iff {fault : BindingFault} :
    g.resourceKind = .error fault ↔ g.Unbindable fault := by
  refine ⟨fun h => ?_, Unbindable.resourceKind_eq⟩
  obtain ⟨kind, h'⟩ | ⟨fault', h'⟩ := g.exists_standsFor_or_unbindable
  · rw [h'.resourceKind_eq] at h
    cases h
  · rw [h'.resourceKind_eq] at h
    cases h
    exact h'

theorem not_unbindable_iff : (∀ fault, ¬g.Unbindable fault) ↔ ∃ kind, g.StandsFor kind := by
  constructor
  · intro h
    exact g.exists_standsFor_or_unbindable.resolve_right fun ⟨fault, hfault⟩ => h fault hfault
  · rintro ⟨kind, hkind⟩ fault hfault
    have h := hkind.resourceKind_eq
    rw [hfault.resourceKind_eq] at h
    cases h

end Global

/-! ## Sorting -/

namespace ShaderBinding

/-- The place that a binding reports. -/
def slot (b : ShaderBinding) : Slot := ⟨b.group, b.binding⟩

theorem precedes_iff {a b : ShaderBinding} :
    a.precedes b = true ↔ a.group < b.group ∨ a.group = b.group ∧ a.binding ≤ b.binding := by
  simp [precedes]

theorem precedes_trans (a b c : ShaderBinding) (hab : a.precedes b = true)
    (hbc : b.precedes c = true) : a.precedes c = true := by
  rw [precedes_iff] at hab hbc ⊢
  omega

theorem precedes_total (a b : ShaderBinding) : (a.precedes b || b.precedes a) = true := by
  rw [Bool.or_eq_true, precedes_iff, precedes_iff]
  omega

end ShaderBinding

/-! ## The needed globals -/

namespace ShaderModule

/-- An entry point needs a global that is bound and that it uses. -/
def Needs (m : ShaderModule) (e : EntryPoint) (g : Global) : Prop :=
  g.slot.isSome ∧ m.Uses e g.name

instance (m : ShaderModule) (e : EntryPoint) : DecidablePred (m.Needs e) :=
  fun g => inferInstanceAs (Decidable (g.slot.isSome ∧ m.Uses e g.name))

/-- The globals that an entry point needs, in the order of their declaration. -/
def needed (m : ShaderModule) (e : EntryPoint) : List Global :=
  m.globals.filter fun g => m.Needs e g

/-- A global is the first in the order of declaration that is needed and cannot be bound. -/
def FirstUnbindable (m : ShaderModule) (e : EntryPoint) (g : Global) (fault : BindingFault) : Prop :=
  ∃ before after, m.globals = before ++ g :: after ∧ m.Needs e g ∧ g.Unbindable fault ∧
    ∀ g' ∈ before, m.Needs e g' → ∀ fault', ¬g'.Unbindable fault'

/-- A binding reports a global. -/
structure Reports (m : ShaderModule) (g : Global) (b : ShaderBinding) : Prop where
  slot : g.slot = some b.slot
  name : b.name = m.bindingName g b.slot
  kind : g.StandsFor b.kind
  /-- Only buffers have a size, that of their type. -/
  size : b.size = if b.kind.isBuffer then some (m.extent g.type).size else none

/-- Bindings report each of some globals once. They are sorted by group and binding; those of one
place stand in the order of the globals. -/
structure ReportsAll (m : ShaderModule) (gs : List Global) (bindings : List ShaderBinding) : Prop where
  sorted : bindings.Pairwise fun a b =>
    a.group < b.group ∨ a.group = b.group ∧ a.binding ≤ b.binding
  once : ∃ reports, List.Forall₂ m.Reports gs reports ∧ bindings.Perm reports ∧
    ∀ slot, (bindings.filter fun b => b.slot = slot) = reports.filter fun b => b.slot = slot

variable {m : ShaderModule} {e : EntryPoint} {stage : Stage}

/-- What each global reports, sorted. -/
theorem reportsAll_mergeSort {gs : List Global} {reports : List ShaderBinding}
    (h : List.Forall₂ m.Reports gs reports) :
    m.ReportsAll gs (reports.mergeSort ShaderBinding.precedes) where
  sorted := (List.pairwise_mergeSort ShaderBinding.precedes_trans ShaderBinding.precedes_total
    reports).imp ShaderBinding.precedes_iff.1
  once := by
    refine ⟨reports, h, List.mergeSort_perm .., fun slot => ?_⟩
    refine filter_mergeSort ShaderBinding.precedes_trans ShaderBinding.precedes_total ?_ reports
    intro a b ha hb
    simp only [decide_eq_true_eq] at ha hb
    have hslot := ha.trans hb.symm
    simp only [ShaderBinding.slot, Slot.mk.injEq] at hslot
    exact ShaderBinding.precedes_iff.2 (.inr ⟨hslot.1, Nat.le_of_eq hslot.2⟩)

theorem boundGlobals_eq (m : ShaderModule) (e : EntryPoint) :
    m.boundGlobals e = (m.needed e).filterMap fun g => g.slot.map fun slot => (g, slot) := by
  rw [boundGlobals, needed, List.filterMap_filter]
  congr 1
  funext g
  cases hslot : g.slot with
  | none => simp [Needs, hslot]
  | some slot =>
    by_cases huse : m.Uses e g.name <;> simp [Needs, hslot, mem_usedGlobals_iff, huse]

theorem slot_of_mem_boundGlobals {p : Global × Slot} (h : p ∈ m.boundGlobals e) :
    p.1.slot = some p.2 := by
  rw [boundGlobals_eq, List.mem_filterMap] at h
  obtain ⟨g, -, h⟩ := h
  obtain ⟨slot, hslot, rfl⟩ := Option.map_eq_some_iff.1 h
  exact hslot

theorem map_fst_boundGlobals : (m.boundGlobals e).map Prod.fst = m.needed e := by
  rw [boundGlobals_eq, List.map_filterMap, ← List.filterMap_some (l := m.needed e),
    List.filterMap_filterMap]
  refine List.filterMap_congr fun g hg => ?_
  have hneeds := of_decide_eq_true (List.mem_filter.1 hg).2
  obtain ⟨slot, hslot⟩ := Option.isSome_iff_exists.1 hneeds.1
  simp [hslot]

/-! ## One global -/

theorem reflectGlobal_eq_ok {g : Global} {slot : Slot} {b : ShaderBinding}
    (hslot : g.slot = some slot) (h : m.reflectGlobal g slot = .ok b) : m.Reports g b := by
  unfold reflectGlobal at h
  simp only [] at h
  split at h
  · cases h
  next kind hkind =>
    cases h
    exact ⟨hslot, rfl, Global.resourceKind_eq_ok_iff.1 hkind, rfl⟩

theorem exists_reflectGlobal_iff {g : Global} {slot : Slot} :
    (∃ b, m.reflectGlobal g slot = .ok b) ↔ ∃ kind, g.StandsFor kind := by
  simp only [reflectGlobal, ← Global.resourceKind_eq_ok_iff]
  cases g.resourceKind <;> simp

theorem reflectGlobal_eq_error_iff {g : Global} {slot : Slot} {err : ReflectError} :
    m.reflectGlobal g slot = .error err ↔
      ∃ fault, g.Unbindable fault ∧ err = .unsupportedBinding (m.bindingName g slot) fault := by
  simp only [reflectGlobal, ← Global.resourceKind_eq_error_iff]
  cases g.resourceKind with
  | error fault =>
    simp only [Except.error.injEq]
    exact ⟨fun h => ⟨fault, rfl, h.symm⟩, fun ⟨_, h, h'⟩ => h ▸ h'.symm⟩
  | ok kind => simp

/-! ## All globals -/

/-- The needed globals can all be reported iff each stands for a kind of resource. -/
theorem exists_reports_iff :
    (∃ bs, (m.boundGlobals e).mapM (fun p => m.reflectGlobal p.1 p.2) = .ok bs) ↔
      ∀ g ∈ m.needed e, ∃ kind, g.StandsFor kind := by
  rw [exists_mapM_eq_ok_iff, ← map_fst_boundGlobals, List.forall_mem_map]
  simp only [exists_reflectGlobal_iff]

theorem reports_of_mapM {bs : List ShaderBinding}
    (h : (m.boundGlobals e).mapM (fun p => m.reflectGlobal p.1 p.2) = .ok bs) :
    List.Forall₂ m.Reports (m.needed e) bs := by
  rw [← map_fst_boundGlobals, List.forall₂_map_left_iff]
  have hboth := (List.forall₂_and_left _ _).2
    ⟨fun p hp => slot_of_mem_boundGlobals hp, mapM_eq_ok_iff.1 h⟩
  exact hboth.imp fun p b ⟨hslot, hb⟩ => reflectGlobal_eq_ok hslot hb

/-- Where a needed global stands among the needed ones is where it stands among all. -/
theorem needed_eq_append_iff {pre post : List Global} {g : Global} :
    m.needed e = pre ++ g :: post ↔ ∃ before after, m.globals = before ++ g :: after ∧ m.Needs e g ∧
      (before.filter fun g => m.Needs e g) = pre ∧ (after.filter fun g => m.Needs e g) = post := by
  simp only [needed, List.filter_eq_append_iff, List.filter_eq_cons_iff, decide_eq_true_eq]
  constructor
  · rintro ⟨front, _, hsplit, hpre, skipped, after, rfl, hskipped, hg, hpost⟩
    refine ⟨front ++ skipped, after, by simp [hsplit], hg, ?_, hpost⟩
    rw [List.filter_append, hpre, List.filter_eq_nil_iff.2, List.append_nil]
    simpa using hskipped
  · rintro ⟨before, after, hsplit, hg, hpre, hpost⟩
    exact ⟨before, g :: after, hsplit, hpre, [], after, rfl,
      fun _ h => absurd h List.not_mem_nil, hg, hpost⟩

/-- Reporting the needed globals fails for the first of them that cannot be bound. -/
theorem reports_eq_error_iff {err : ReflectError} :
    (m.boundGlobals e).mapM (fun p => m.reflectGlobal p.1 p.2) = .error err ↔
      ∃ g slot fault, m.FirstUnbindable e g fault ∧ g.slot = some slot ∧
        err = .unsupportedBinding (m.bindingName g slot) fault := by
  simp only [mapM_eq_error_iff, exists_reflectGlobal_iff, reflectGlobal_eq_error_iff]
  constructor
  · rintro ⟨pre, p, post, hsplit, hpre, fault, hfault, rfl⟩
    have hslot : p.1.slot = some p.2 :=
      slot_of_mem_boundGlobals (hsplit ▸ List.mem_append_right pre (List.mem_cons_self ..))
    have hneeded := map_fst_boundGlobals (m := m) (e := e)
    rw [hsplit, List.map_append, List.map_cons, eq_comm, needed_eq_append_iff] at hneeded
    obtain ⟨before, after, hglobals, hneeds, hbefore, -⟩ := hneeded
    refine ⟨p.1, p.2, fault, ⟨before, after, hglobals, hneeds, hfault, ?_⟩, hslot, rfl⟩
    intro g' hg' hneeds'
    have hmem : g' ∈ pre.map Prod.fst := by
      rw [← hbefore, List.mem_filter]
      exact ⟨hg', decide_eq_true hneeds'⟩
    obtain ⟨p', hp', rfl⟩ := List.mem_map.1 hmem
    exact Global.not_unbindable_iff.2 (hpre p' hp')
  · rintro ⟨g, slot, fault, ⟨before, after, hglobals, hneeds, hfault, hbefore⟩, hslot, rfl⟩
    have hneeded := needed_eq_append_iff.2 ⟨before, after, hglobals, hneeds, rfl, rfl⟩
    rw [← map_fst_boundGlobals] at hneeded
    obtain ⟨pre, _, hsplit, hpre, htail⟩ := List.map_eq_append_iff.1 hneeded
    obtain ⟨p, post, rfl, rfl, -⟩ := List.map_eq_cons_iff.1 htail
    have hslot' := slot_of_mem_boundGlobals (hsplit ▸ List.mem_append_right pre (List.mem_cons_self ..))
    rw [hslot] at hslot'
    cases hslot'
    refine ⟨pre, p, post, hsplit, fun p' hp' => ?_, fault, hfault, rfl⟩
    have hmem : p'.1 ∈ before.filter fun g => m.Needs e g := hpre ▸ List.mem_map_of_mem hp'
    rw [List.mem_filter, decide_eq_true_eq] at hmem
    exact Global.not_unbindable_iff.1 (hbefore p'.1 hmem.1 hmem.2)

/-! ## The entry point -/

/-- Globals first, then the inputs of a vertex stage: only these can fail. -/
theorem entryInterface_eq (m : ShaderModule) (e : EntryPoint) (stage : Stage) :
    m.entryInterface e stage =
      (m.boundGlobals e).mapM (fun p => m.reflectGlobal p.1 p.2) >>= fun reports =>
        (if stage = .vertex then m.vertexInputs e else pure []) >>= fun inputs => pure {
          entryPoint := e.name
          stage := stage
          bindings := reports.mergeSort ShaderBinding.precedes
          vertexInputs := inputs
          colorOutputs := if stage = .fragment then m.colorOutputs e else []
          workgroupSize := if stage = .compute then e.workgroupSize else [0, 0, 0] } := by
  unfold entryInterface
  cases stage <;> rfl

theorem exists_vertexInput_iff {l : Located} :
    (∃ v, l.vertexInput = .ok v) ↔ l.type.inputFormat?.isSome := by
  unfold Located.vertexInput
  cases l.type.inputFormat? <;> simp

theorem exists_vertexInputs_iff :
    (∃ inputs, m.vertexInputs e = .ok inputs) ↔
      ∀ l ∈ m.locatedInputs e, l.type.inputFormat?.isSome := by
  simp only [← exists_vertexInput_iff, ← exists_mapM_eq_ok_iff, vertexInputs, bind_eq_ok_iff]
  constructor
  · rintro ⟨_, inputs, h, -⟩
    exact ⟨inputs, h⟩
  · rintro ⟨inputs, h⟩
    exact ⟨_, inputs, h, rfl⟩

theorem vertexInputs_eq_error {err : ReflectError} (h : m.vertexInputs e = .error err) :
    ∃ input, err = .unsupportedVertexInput input := by
  rcases bind_eq_error_iff.1 h with h | ⟨inputs, -, h⟩
  · obtain ⟨before, l, after, -, -, h⟩ := mapM_eq_error_iff.1 h
    unfold Located.vertexInput at h
    split at h
    · cases h
    · cases h
      exact ⟨_, rfl⟩
  · cases h

theorem entryInterface_eq_ok {i : ShaderInterface} (h : m.entryInterface e stage = .ok i) :
    m.ReportsAll (m.needed e) i.bindings := by
  rw [entryInterface_eq] at h
  obtain ⟨reports, hreports, h⟩ := bind_eq_ok_iff.1 h
  obtain ⟨inputs, -, h⟩ := bind_eq_ok_iff.1 h
  cases h
  exact reportsAll_mergeSort (reports_of_mapM hreports)

theorem exists_entryInterface_iff :
    (∃ i, m.entryInterface e stage = .ok i) ↔ (∀ g ∈ m.needed e, ∃ kind, g.StandsFor kind) ∧
      (stage = .vertex → ∀ l ∈ m.locatedInputs e, l.type.inputFormat?.isSome) := by
  rw [← exists_reports_iff, ← exists_vertexInputs_iff, entryInterface_eq]
  constructor
  · rintro ⟨i, h⟩
    obtain ⟨reports, hreports, h⟩ := bind_eq_ok_iff.1 h
    obtain ⟨inputs, hinputs, -⟩ := bind_eq_ok_iff.1 h
    refine ⟨⟨reports, hreports⟩, fun hstage => ⟨inputs, ?_⟩⟩
    rwa [if_pos hstage] at hinputs
  · rintro ⟨⟨reports, hreports⟩, hvertex⟩
    rw [hreports]
    by_cases hstage : stage = .vertex
    · obtain ⟨inputs, hinputs⟩ := hvertex hstage
      rw [if_pos hstage, hinputs]
      exact ⟨_, rfl⟩
    · rw [if_neg hstage]
      exact ⟨_, rfl⟩

/-- A failure is that of a global, or of a vertex input when all globals can be reported. -/
theorem entryInterface_eq_error {err : ReflectError} (h : m.entryInterface e stage = .error err) :
    (m.boundGlobals e).mapM (fun p => m.reflectGlobal p.1 p.2) = .error err ∨
      stage = .vertex ∧ ∃ input, err = .unsupportedVertexInput input := by
  rw [entryInterface_eq] at h
  rcases bind_eq_error_iff.1 h with h | ⟨reports, -, h⟩
  · exact .inl h
  · rcases bind_eq_error_iff.1 h with h | ⟨inputs, -, h⟩
    · split at h
      · exact .inr ⟨‹_›, vertexInputs_eq_error h⟩
      · cases h
    · cases h

theorem entryInterface_unsupportedBinding_iff {name : String} {fault : BindingFault} :
    m.entryInterface e stage = .error (.unsupportedBinding name fault) ↔
      ∃ g slot, m.FirstUnbindable e g fault ∧ g.slot = some slot ∧ name = m.bindingName g slot := by
  have hreports : m.entryInterface e stage = .error (.unsupportedBinding name fault) ↔
      (m.boundGlobals e).mapM (fun p => m.reflectGlobal p.1 p.2) =
        .error (.unsupportedBinding name fault) := by
    constructor
    · intro h
      rcases entryInterface_eq_error h with h | ⟨-, input, h⟩
      · exact h
      · cases h
    · intro h
      rw [entryInterface_eq, h]
      rfl
  rw [hreports, reports_eq_error_iff]
  constructor
  · rintro ⟨g, slot, fault', hfirst, hslot, h⟩
    cases h
    exact ⟨g, slot, hfirst, hslot, rfl⟩
  · rintro ⟨g, slot, hfirst, hslot, rfl⟩
    exact ⟨g, slot, fault, hfirst, hslot, rfl⟩

/-- If some needed global cannot be bound, one of them is the first. -/
theorem exists_firstUnbindable_iff :
    (∃ g fault, m.FirstUnbindable e g fault) ↔
      ∃ g ∈ m.globals, m.Needs e g ∧ ∃ fault, g.Unbindable fault := by
  constructor
  · rintro ⟨g, fault, before, after, hglobals, hneeds, hfault, -⟩
    refine ⟨g, ?_, hneeds, fault, hfault⟩
    rw [hglobals]
    exact List.mem_append_right before (List.mem_cons_self ..)
  · rintro ⟨g, hg, hneeds, fault, hfault⟩
    obtain ⟨before, g', after, hglobals, ⟨hneeds', fault', hfault'⟩, hbefore⟩ :=
      exists_first (p := fun g => m.Needs e g ∧ ∃ fault, g.Unbindable fault)
        ⟨g, hg, hneeds, fault, hfault⟩
    refine ⟨g', fault', before, after, hglobals, hneeds', hfault', ?_⟩
    intro x hx hneedsx faultx hfaultx
    exact hbefore x hx ⟨hneedsx, faultx, hfaultx⟩

/-! ## Other globals -/

theorem settleStructs_globals (m : ShaderModule) (globals : List Global) (layers : Nat)
    (known : List (String × Extent)) :
    { m with globals := globals }.settleStructs layers known = m.settleStructs layers known := by
  induction layers generalizing known with
  | zero => rfl
  | succ layers ih =>
    simp only [settleStructs, ih]
    rfl

theorem reflectGlobal_globals (m : ShaderModule) (globals : List Global) (g : Global) (slot : Slot) :
    { m with globals := globals }.reflectGlobal g slot = m.reflectGlobal g slot := by
  have hextent : { m with globals := globals }.extent g.type = m.extent g.type := by
    simp only [extent, structExtents, settleStructs_globals]
  simp only [reflectGlobal, hextent]
  rfl

/-- The globals that are not needed have no part in the interface. -/
theorem entryInterface_congr {globals : List Global}
    (h : (globals.filter fun g => m.Needs e g) = m.needed e) :
    { m with globals := globals }.entryInterface e stage = m.entryInterface e stage := by
  have hneeded : { m with globals := globals }.needed e = m.needed e := by
    rw [← h, needed]
    exact List.filter_congr fun g _ => decide_eq_decide.2 Iff.rfl
  simp only [entryInterface_eq, boundGlobals_eq, hneeded, reflectGlobal_globals]
  rfl

theorem reflect_eq_entryInterface {name : String} (hvalid : m.source = .valid)
    (hentry : m.entry? name = some e) (hstage : e.stage = .pipeline stage) :
    m.reflect name = m.entryInterface e stage := by
  simp only [reflect, hvalid, hentry, hstage]

/-- **What reflection reports.** In a valid module, for an entry point of a pipeline stage:

* Reflection reports the globals that are bound and that the entry point uses, itself or through a
  chain of calls, each once and sorted by group and binding.
* It fails for a global iff one of these cannot be bound, and then for the first in the order of
  declaration, under its name. Otherwise only an input of a vertex stage can make it fail.
* The other globals, bound but not used or used but not bound, can be dropped, changed or added to
  without any effect. -/
theorem reflect_spec {name : String} (hvalid : m.source = .valid)
    (hentry : m.entry? name = some e) (hstage : e.stage = .pipeline stage) :
    (∀ i, m.reflect name = .ok i → m.ReportsAll (m.needed e) i.bindings) ∧
    ((∃ i, m.reflect name = .ok i) ↔
      (∀ g ∈ m.globals, m.Needs e g → ∃ kind, g.StandsFor kind) ∧
        (stage = .vertex → ∀ l ∈ m.locatedInputs e, l.type.inputFormat?.isSome)) ∧
    ((∃ n fault, m.reflect name = .error (.unsupportedBinding n fault)) ↔
      ∃ g ∈ m.globals, m.Needs e g ∧ ∃ fault, g.Unbindable fault) ∧
    (∀ n fault, m.reflect name = .error (.unsupportedBinding n fault) ↔
      ∃ g slot, m.FirstUnbindable e g fault ∧ g.slot = some slot ∧ n = m.bindingName g slot) ∧
    (∀ err, m.reflect name = .error err → (∃ n fault, err = .unsupportedBinding n fault) ∨
      stage = .vertex ∧ ∃ input, err = .unsupportedVertexInput input) ∧
    ∀ globals, (globals.filter fun g => m.Needs e g) = (m.globals.filter fun g => m.Needs e g) →
      { m with globals := globals }.reflect name = m.reflect name := by
  simp only [reflect_eq_entryInterface hvalid hentry hstage]
  refine ⟨fun i => entryInterface_eq_ok, ?_, ?_, fun n fault => entryInterface_unsupportedBinding_iff,
    fun err h => ?_, fun globals h => ?_⟩
  · simp only [exists_entryInterface_iff, needed, List.mem_filter, decide_eq_true_eq, and_imp]
  · rw [← exists_firstUnbindable_iff]
    constructor
    · rintro ⟨n, fault, h⟩
      obtain ⟨g, slot, hfirst, -, -⟩ := entryInterface_unsupportedBinding_iff.1 h
      exact ⟨g, fault, hfirst⟩
    · rintro ⟨g, fault, hfirst⟩
      obtain ⟨-, -, -, hneeds, -, -⟩ := id hfirst
      obtain ⟨slot, hslot⟩ := Option.isSome_iff_exists.1 hneeds.1
      exact ⟨_, fault, entryInterface_unsupportedBinding_iff.2 ⟨g, slot, hfirst, hslot, rfl⟩⟩
  · rcases entryInterface_eq_error h with h | h
    · obtain ⟨g, slot, fault, -, -, rfl⟩ := reports_eq_error_iff.1 h
      exact .inl ⟨_, _, rfl⟩
    · exact .inr h
  · have hentry' : ShaderModule.entry? { m with globals := globals } name = some e := hentry
    rw [reflect_eq_entryInterface (m := { m with globals := globals }) hvalid hentry' hstage]
    exact entryInterface_congr h

/-- The fragments of a scene. The camera is read in the body of the entry point and the lights two
calls away; nothing that is called reads the array of frames, which cannot be bound. -/
def shading : EntryPoint :=
  { name := "fs_main", stage := .pipeline .fragment, uses := ["camera", "scratch"],
    calls := ["shade"] }

/-- The module of `shading`. -/
def lighting : ShaderModule where
  globals := [
    ⟨"frames", .handle, .bindingArray (.image .d2 (.sampled .float false)) (some 4), some ⟨0, 1⟩⟩,
    ⟨"camera", .uniform, .matrix 4 4 ⟨.float, 4⟩, some ⟨1, 0⟩⟩,
    ⟨"scratch", .workgroup, .scalar ⟨.float, 4⟩, none⟩,
    ⟨"lights", .storage false, .array (.vector 4 ⟨.float, 4⟩) none, some ⟨0, 0⟩⟩]
  functions := [⟨"record", ["frames"], []⟩, ⟨"attenuate", ["lights"], []⟩,
    ⟨"shade", [], ["attenuate"]⟩]
  entryPoints := [shading]

/-- Of the globals of `lighting`, `shading` needs the camera and the lights, and reports them. -/
theorem reflect_lighting :
    lighting.source = .valid ∧ lighting.entry? "fs_main" = some shading ∧
    shading.stage = .pipeline .fragment ∧
    (lighting.needed shading).map Global.name = ["camera", "lights"] ∧
    ∃ i, lighting.reflect "fs_main" = .ok i ∧
      lighting.ReportsAll (lighting.needed shading) i.bindings := by
  have hvalid : lighting.source = .valid := rfl
  have hentry : lighting.entry? "fs_main" = some shading := rfl
  have hstage : shading.stage = .pipeline .fragment := rfl
  have hused : lighting.usedGlobals shading = ["camera", "scratch", "lights"] := by cbv
  have hneeds : ∀ g, lighting.Needs shading g ↔
      g.slot.isSome ∧ g.name ∈ ["camera", "scratch", "lights"] := fun g => by
    rw [Needs, ← mem_usedGlobals_iff, hused]
  obtain ⟨hok, hiff, -⟩ := reflect_spec hvalid hentry hstage
  have hstands : ∀ g ∈ lighting.globals, lighting.Needs shading g → ∃ kind, g.StandsFor kind := by
    intro g hg hneed
    rw [hneeds] at hneed
    simp only [lighting, List.mem_cons, List.not_mem_nil, or_false] at hg
    rcases hg with rfl | rfl | rfl | rfl
    · simp at hneed
    · exact ⟨_, .uniformBuffer rfl⟩
    · simp at hneed
    · exact ⟨_, .storageBuffer rfl⟩
  have hfragment : Stage.fragment ≠ Stage.vertex := by decide
  obtain ⟨i, hi⟩ := hiff.2 ⟨hstands, fun h => absurd h hfragment⟩
  refine ⟨hvalid, hentry, hstage, ?_, i, hi, hok i hi⟩
  simp only [needed, hneeds]
  simp [lighting]

end ShaderModule

end PassForge
