import PassForge.Proofs.Shader.Reflection

/-!
# Which inputs and outputs are reported

A vertex entry point reports its located arguments and the located members of arguments that are passed
by their members; a fragment entry point so reports its result. This is described here by places: that
of an argument among the arguments and, within it, that of a member.

* `ShaderType.Shaped`: the shape of a scalar or a vector of numbers. Other types have none.
* `ShaderModule.Passes`: what an argument or a result passes at locations, built-in values never.
  `DeclaresInput` and `DeclaresOutput` say so of an entry point.
* `Located.IsInput`, `Located.IsOutput`: what is reported of a located value.
* `enumerates_locatedInputs`, `enumerates_vertexInputs`: the declared inputs in the order of their
  places, and those that are reported in the order of their locations. Outputs go in the same way.
* `interface_spec`: what is reported, when reflection fails for an input, and for which.
-/

namespace PassForge

/-! ## Shapes -/

/-- The numbers that scalars of a class are. -/
inductive ScalarKind.Numbers : ScalarKind → NumericKind → Prop
  | float : Numbers .float .float
  | sint : Numbers .sint .sint
  | uint : Numbers .uint .uint

/-- The shape of a scalar or a vector of numbers. -/
inductive ShaderType.Shaped : ShaderType → InputFormat → Prop
  | scalar {k : ScalarKind} {n : NumericKind} {width : Nat} (h : k.Numbers n) :
      Shaped (.scalar ⟨k, width⟩) ⟨n, 1, width⟩
  | vector {k : ScalarKind} {n : NumericKind} {size width : Nat} (h : k.Numbers n) :
      Shaped (.vector size ⟨k, width⟩) ⟨n, size, width⟩

theorem ScalarKind.numeric?_eq_some_iff {k : ScalarKind} {n : NumericKind} :
    k.numeric? = some n ↔ k.Numbers n := by
  constructor
  · intro h
    cases k with
    | float | sint | uint =>
      cases h
      constructor
    | bool => cases h
  · intro h
    cases h <;> rfl

theorem ShaderType.inputFormat?_eq_some_iff {t : ShaderType} {f : InputFormat} :
    t.inputFormat? = some f ↔ t.Shaped f := by
  constructor
  · intro h
    cases t with
    | scalar s =>
      obtain ⟨n, hn, rfl⟩ := Option.map_eq_some_iff.1 h
      exact .scalar (ScalarKind.numeric?_eq_some_iff.1 hn)
    | vector size s =>
      obtain ⟨n, hn, rfl⟩ := Option.map_eq_some_iff.1 h
      exact .vector (ScalarKind.numeric?_eq_some_iff.1 hn)
    | _ => cases h
  · intro h
    cases h with
    | scalar hk | vector hk => simp [inputFormat?, ScalarKind.numeric?_eq_some_iff.2 hk]

namespace Located

variable {l : Located}

/-- A located value has no shape. -/
def Shapeless (l : Located) : Prop := ∀ f, ¬l.type.Shaped f

/-- The name under which a located value is reported: its own, or else one made of its location. -/
def label (l : Located) : String := l.name.getD ("location" ++ toString l.location)

/-- A vertex input reports a located value. -/
structure IsInput (l : Located) (v : VertexInput) : Prop where
  name : v.name = l.label
  location : v.location = l.location
  shaped : l.type.Shaped v.format

/-- A colour output reports a located value. One without a shape counts as four components. -/
structure IsOutput (l : Located) (o : ColorOutput) : Prop where
  location : o.location = l.location
  shaped : ∀ f, l.type.Shaped f → o.components = f.components
  shapeless : l.Shapeless → o.components = 4

theorem shapeless_iff : l.Shapeless ↔ l.type.inputFormat? = none := by
  simp only [Shapeless, ← ShaderType.inputFormat?_eq_some_iff, Option.eq_none_iff_forall_ne_some]

theorem vertexInput_eq_ok_iff {v : VertexInput} : l.vertexInput = .ok v ↔ l.IsInput v := by
  unfold vertexInput
  cases hf : l.type.inputFormat? with
  | none =>
    have hshapeless := shapeless_iff.2 hf
    exact ⟨fun h => (nomatch h), fun h => absurd h.shaped (hshapeless _)⟩
  | some f =>
    have hshaped := ShaderType.inputFormat?_eq_some_iff.1 hf
    constructor
    · intro h
      cases h
      exact ⟨rfl, rfl, hshaped⟩
    · rintro ⟨hname, hlocation, hshaped'⟩
      rw [← ShaderType.inputFormat?_eq_some_iff, hf] at hshaped'
      cases v
      cases hshaped'
      cases hname
      cases hlocation
      rfl

theorem vertexInput_eq_error_iff {err : ReflectError} :
    l.vertexInput = .error err ↔ l.Shapeless ∧ err = .unsupportedVertexInput l.label := by
  rw [shapeless_iff]
  unfold vertexInput label
  cases l.type.inputFormat? <;> simp [eq_comm]

theorem exists_vertexInput_eq_ok_iff : (∃ v, l.vertexInput = .ok v) ↔ ¬l.Shapeless := by
  rw [shapeless_iff]
  unfold vertexInput
  cases l.type.inputFormat? <;> simp

theorem colorOutput_eq_iff {o : ColorOutput} : l.colorOutput = o ↔ l.IsOutput o := by
  unfold colorOutput
  cases hf : l.type.inputFormat? with
  | none =>
    have hshapeless := shapeless_iff.2 hf
    constructor
    · rintro rfl
      exact ⟨rfl, fun f h => absurd h (hshapeless f), fun _ => rfl⟩
    · rintro ⟨hlocation, -, hcomponents⟩
      cases o
      cases hlocation
      cases hcomponents hshapeless
      rfl
  | some f =>
    have hshaped := ShaderType.inputFormat?_eq_some_iff.1 hf
    constructor
    · rintro rfl
      refine ⟨rfl, fun f' h => ?_, fun h => absurd hshaped (h f)⟩
      rw [← ShaderType.inputFormat?_eq_some_iff, hf] at h
      cases h
      rfl
    · rintro ⟨hlocation, hcomponents, -⟩
      cases o
      cases hlocation
      cases hcomponents f hshaped
      rfl

end Located

/-! ## Located values -/

namespace ShaderModule

variable {m : ShaderModule} {e : EntryPoint} {stage : Stage}

/-- The name that an argument or a member has kept. -/
def keptName (m : ShaderModule) (name : String) : Option String :=
  if m.named then some name else none

/-- What an argument or result passes at a location: itself, or a member of its structure type, by the
position of the member. Built-in values are passed at no location. -/
inductive Passes (m : ShaderModule) (name : Option String) :
    ShaderType → Passing → Nat → Located → Prop
  | itself {type : ShaderType} {n : Nat} : Passes m name type (.location n) 0 ⟨name, type, n⟩
  | member {s : String} {d : StructDecl} {j n : Nat} {b : Member} (hd : m.struct? s = some d)
      (hb : d.members[j]? = some b) (hn : b.passing = .location n) :
      Passes m name (.named s) .members j ⟨m.keptName b.name, b.type, n⟩

theorem enumerates_located (m : ShaderModule) (name : Option String) (type : ShaderType)
    (passing : Passing) : Enumerates (m.Passes name type passing) (m.located name type passing) := by
  cases passing with
  | location n =>
    refine ⟨[(0, ⟨name, type, n⟩)], rfl, List.pairwise_singleton .., fun j l => ?_⟩
    rw [List.mem_singleton]
    constructor
    · intro h
      cases h
      exact .itself
    · rintro ⟨⟩
      rfl
  | builtin => exact .nil fun (j : Nat) l h => nomatch h
  | members =>
    cases type with
    | named s =>
      simp only [located]
      cases hs : m.struct? s with
      | none =>
        refine .nil fun (j : Nat) l h => ?_
        cases h with
        | member hd hb hn =>
          rw [hs] at hd
          cases hd
      | some d =>
        refine ((Enumerates.getElem? d.members).filterMap _).congr fun j l => ?_
        constructor
        · rintro ⟨b, hb, h⟩
          split at h
          · cases h
            exact .member hs hb ‹_›
          · cases h
        · intro h
          cases h with
          | member hd hb hn =>
            rw [hs] at hd
            cases hd
            refine ⟨_, hb, ?_⟩
            simp only [hn]
            rfl
    | _ => exact .nil fun (j : Nat) l h => nomatch h

/-- An argument of an entry point passes a value at a location. The place of the value is that of the
argument and, within it, that of the member. -/
def DeclaresInput (m : ShaderModule) (e : EntryPoint) (p : Nat ×ₗ Nat) (l : Located) : Prop :=
  ∃ a, e.arguments[(ofLex p).1]? = some a ∧
    m.Passes (m.keptName a.name) a.type a.passing (ofLex p).2 l

/-- The result of an entry point passes a value at a location. -/
def DeclaresOutput (m : ShaderModule) (e : EntryPoint) (j : Nat) (l : Located) : Prop :=
  ∃ r, e.result = some r ∧ m.Passes none r.type r.passing j l

theorem enumerates_locatedInputs (m : ShaderModule) (e : EntryPoint) :
    Enumerates (m.DeclaresInput e) (m.locatedInputs e) := by
  have harguments := Enumerates.getElem? e.arguments
  exact harguments.flatMap fun a => m.enumerates_located (m.keptName a.name) a.type a.passing

theorem enumerates_locatedOutputs (m : ShaderModule) (e : EntryPoint) :
    Enumerates (m.DeclaresOutput e) (m.locatedOutputs e) := by
  unfold locatedOutputs DeclaresOutput
  cases e.result with
  | none => exact .nil fun (j : Nat) l ⟨r, h, _⟩ => nomatch h
  | some r => exact (m.enumerates_located none r.type r.passing).congr fun j l => by simp

/-! ## What is reported -/

theorem enumerates_vertexInputs {inputs : List VertexInput} (h : m.vertexInputs e = .ok inputs) :
    EnumeratesBy VertexInput.location (fun p v => ∃ l, m.DeclaresInput e p l ∧ l.IsInput v) inputs := by
  obtain ⟨vs, hvs, h⟩ := bind_eq_ok_iff.1 h
  cases h
  simp only [← Located.vertexInput_eq_ok_iff]
  exact ((m.enumerates_locatedInputs e).mapM hvs).mergeSort VertexInput.location

theorem enumerates_colorOutputs (m : ShaderModule) (e : EntryPoint) :
    EnumeratesBy ColorOutput.location (fun j o => ∃ l, m.DeclaresOutput e j l ∧ l.IsOutput o)
      (m.colorOutputs e) := by
  simp only [← Located.colorOutput_eq_iff]
  exact ((m.enumerates_locatedOutputs e).map Located.colorOutput).mergeSort ColorOutput.location

/-- A located value is the first in the order of declaration that has no shape. -/
def FirstShapeless (m : ShaderModule) (e : EntryPoint) (l : Located) : Prop :=
  ∃ p, m.DeclaresInput e p l ∧ l.Shapeless ∧
    ∀ p' l', m.DeclaresInput e p' l' → p' < p → ¬l'.Shapeless

theorem exists_firstShapeless_iff :
    (∃ l, m.FirstShapeless e l) ↔ ∃ p l, m.DeclaresInput e p l ∧ l.Shapeless := by
  constructor
  · rintro ⟨l, p, hl, hshapeless, -⟩
    exact ⟨p, l, hl, hshapeless⟩
  · intro h
    obtain ⟨p, l, hl, hshapeless, hfirst⟩ := (m.enumerates_locatedInputs e).exists_first h
    exact ⟨l, p, hl, hshapeless, hfirst⟩

theorem vertexInputs_eq_error_iff {err : ReflectError} : m.vertexInputs e = .error err ↔
    ∃ l, m.FirstShapeless e l ∧ err = .unsupportedVertexInput l.label := by
  have hsort : m.vertexInputs e = .error err ↔
      (m.locatedInputs e).mapM Located.vertexInput = .error err := by
    unfold vertexInputs
    rw [bind_eq_error_iff]
    constructor
    · rintro (h | ⟨vs, -, h⟩)
      · exact h
      · cases h
    · exact .inl
  rw [hsort, mapM_eq_error_iff, (m.enumerates_locatedInputs e).exists_first_iff
    (P := fun l => ∃ v, l.vertexInput = .ok v) (Q := fun l => l.vertexInput = .error err)]
  simp only [Located.exists_vertexInput_eq_ok_iff, Located.vertexInput_eq_error_iff]
  constructor
  · rintro ⟨p, l, hl, ⟨hshapeless, rfl⟩, hfirst⟩
    exact ⟨l, ⟨p, hl, hshapeless, hfirst⟩, rfl⟩
  · rintro ⟨l, ⟨p, hl, hshapeless, hfirst⟩, rfl⟩
    exact ⟨p, l, hl, ⟨hshapeless, rfl⟩, hfirst⟩

/-- When the globals can all be reported, only a vertex input without a shape makes reflection fail. -/
theorem entryInterface_eq_error_iff {err : ReflectError}
    (hglobals : ∀ g ∈ m.needed e, ∃ kind, g.StandsFor kind) :
    m.entryInterface e stage = .error err ↔
      stage = .vertex ∧ ∃ l, m.FirstShapeless e l ∧ err = .unsupportedVertexInput l.label := by
  obtain ⟨reports, hreports⟩ := exists_reports_iff.2 hglobals
  rw [← vertexInputs_eq_error_iff, entryInterface_eq, hreports]
  constructor
  · intro h
    rcases bind_eq_error_iff.1 h with h | ⟨_, -, h⟩
    · cases h
    · rcases bind_eq_error_iff.1 h with h | ⟨_, -, h⟩
      · by_cases hstage : stage = .vertex
        · rw [if_pos hstage] at h
          exact ⟨hstage, h⟩
        · rw [if_neg hstage] at h
          cases h
      · cases h
  · rintro ⟨hstage, h⟩
    rw [if_pos hstage, h]
    rfl

/-- An interface reports what an entry point passes at locations: the inputs of a vertex stage and the
outputs of a fragment stage, by location, those of one location in the order of declaration. -/
structure ReportsLocated (m : ShaderModule) (e : EntryPoint) (i : ShaderInterface) : Prop where
  inputs : e.stage = .pipeline .vertex → EnumeratesBy VertexInput.location
    (fun p v => ∃ l, m.DeclaresInput e p l ∧ l.IsInput v) i.vertexInputs
  noInputs : e.stage ≠ .pipeline .vertex → i.vertexInputs = []
  outputs : e.stage = .pipeline .fragment → EnumeratesBy ColorOutput.location
    (fun j o => ∃ l, m.DeclaresOutput e j l ∧ l.IsOutput o) i.colorOutputs
  noOutputs : e.stage ≠ .pipeline .fragment → i.colorOutputs = []

theorem reportsLocated_of_entryInterface {i : ShaderInterface} (hstage : e.stage = .pipeline stage)
    (h : m.entryInterface e stage = .ok i) : m.ReportsLocated e i := by
  rw [entryInterface_eq] at h
  obtain ⟨_, -, h⟩ := bind_eq_ok_iff.1 h
  obtain ⟨inputs, hinputs, h⟩ := bind_eq_ok_iff.1 h
  cases h
  constructor
  · intro hvertex
    cases hstage.symm.trans hvertex
    exact enumerates_vertexInputs hinputs
  · intro hvertex
    rw [hstage, ne_eq, EntryStage.pipeline.injEq] at hvertex
    rw [if_neg hvertex] at hinputs
    cases hinputs
    rfl
  · intro hfragment
    cases hstage.symm.trans hfragment
    exact enumerates_colorOutputs m e
  · intro hfragment
    rw [hstage, ne_eq, EntryStage.pipeline.injEq] at hfragment
    exact if_neg hfragment

/-- Reflection of an entry point in a valid module is that of its interface; for a stage that is none
of a pipeline it fails. -/
theorem reflect_of_not_pipeline {name : String} (hvalid : m.source = .valid)
    (hentry : m.entry? name = some e) (h : ∀ stage, e.stage ≠ .pipeline stage) :
    m.reflect name = .error (.unsupportedStage name) := by
  simp only [reflect, hvalid, hentry]
  cases hs : e.stage with
  | pipeline stage => exact absurd hs (h stage)
  | task | mesh => rfl

/-- **What is reported of inputs and outputs.** In a valid module, for an entry point:

* Reflection reports the located arguments of a vertex stage and the located members of arguments that
  are passed by their members, each once, by location, under the name that it has kept and with its
  shape. Of a fragment stage it reports the result in the same way. Other stages report neither.
* When each needed global stands for a kind of resource, reflection fails for an input iff one of a
  vertex stage has no shape, and names the first in the order of declaration. Otherwise it succeeds for
  any stage of a pipeline. -/
theorem interface_spec {name : String} (hvalid : m.source = .valid)
    (hentry : m.entry? name = some e) :
    (∀ i, m.reflect name = .ok i → m.ReportsLocated e i) ∧
    ((∀ g ∈ m.globals, m.Needs e g → ∃ kind, g.StandsFor kind) →
      ((∃ n, m.reflect name = .error (.unsupportedVertexInput n)) ↔
        e.stage = .pipeline .vertex ∧ ∃ p l, m.DeclaresInput e p l ∧ l.Shapeless) ∧
      (∀ n, m.reflect name = .error (.unsupportedVertexInput n) ↔
        e.stage = .pipeline .vertex ∧ ∃ l, m.FirstShapeless e l ∧ n = l.label) ∧
      ((∃ i, m.reflect name = .ok i) ↔ (∃ stage, e.stage = .pipeline stage) ∧
        (e.stage = .pipeline .vertex → ∀ p l, m.DeclaresInput e p l → ¬l.Shapeless))) := by
  by_cases hpipeline : ∃ stage, e.stage = .pipeline stage
  · obtain ⟨stage, hstage⟩ := hpipeline
    rw [reflect_eq_entryInterface hvalid hentry hstage]
    refine ⟨fun i => reportsLocated_of_entryInterface hstage, fun hglobals => ?_⟩
    -- No global stops the reflection, which leaves the inputs to decide.
    have hneeded : ∀ g ∈ m.needed e, ∃ kind, g.StandsFor kind := by
      intro g hg
      obtain ⟨hmem, hneeds⟩ := List.mem_filter.1 hg
      exact hglobals g hmem (of_decide_eq_true hneeds)
    have herror : ∀ n, m.entryInterface e stage = .error (.unsupportedVertexInput n) ↔
        e.stage = .pipeline .vertex ∧ ∃ l, m.FirstShapeless e l ∧ n = l.label := by
      intro n
      rw [entryInterface_eq_error_iff hneeded, hstage, EntryStage.pipeline.injEq]
      simp only [ReflectError.unsupportedVertexInput.injEq]
    refine ⟨?_, herror, ?_⟩
    · rw [← exists_firstShapeless_iff]
      constructor
      · rintro ⟨n, h⟩
        obtain ⟨hvertex, l, hl, -⟩ := (herror n).1 h
        exact ⟨hvertex, l, hl⟩
      · rintro ⟨hvertex, l, hl⟩
        exact ⟨l.label, (herror _).2 ⟨hvertex, l, hl, rfl⟩⟩
    · rw [exists_entryInterface_iff, and_iff_right hneeded,
        and_iff_right (⟨stage, hstage⟩ : ∃ stage, e.stage = .pipeline stage), hstage,
        EntryStage.pipeline.injEq]
      simp only [(m.enumerates_locatedInputs e).mem_iff, ← exists_vertexInput_iff,
        Located.exists_vertexInput_eq_ok_iff, forall_exists_index]
      exact ⟨fun h hvertex p l => h hvertex l p, fun h hvertex l p => h hvertex p l⟩
  · have hno : ∀ stage, e.stage ≠ .pipeline stage := not_exists.1 hpipeline
    rw [reflect_of_not_pipeline hvalid hentry hno]
    simp [hno]

/-- The vertices of a mesh. A tint and members of a vertex are passed at locations. The number of a vertex,
a member too, and that of an instance are built in. -/
def vertices : EntryPoint where
  name := "vs_main"
  stage := .pipeline .vertex
  arguments := [
    ⟨"vertex", .named "Vertex", .members⟩,
    ⟨"instance", .scalar ⟨.uint, 4⟩, .builtin⟩,
    ⟨"tint", .vector 4 ⟨.float, 4⟩, .location 1⟩]

/-- The module of `vertices`. -/
def mesh : ShaderModule where
  structs := [⟨"Vertex", [
    { name := "uv", type := .vector 2 ⟨.float, 4⟩, passing := .location 3 },
    { name := "number", type := .scalar ⟨.uint, 4⟩, passing := .builtin },
    { name := "layer", type := .scalar ⟨.sint, 4⟩, passing := .location 0 }]⟩]
  entryPoints := [vertices]

example : (mesh.reflect "vs_main").toOption.map (fun i => i.vertexInputs.map VertexInput.name) =
    some ["layer", "tint", "uv"] := by cbv

/-- `mesh` uses no global and passes numbers only, so that all of its inputs are reported. -/
theorem interface_mesh :
    mesh.source = .valid ∧ mesh.entry? "vs_main" = some vertices ∧
    (∃ i, mesh.reflect "vs_main" = .ok i ∧ mesh.ReportsLocated vertices i) ∧
    ∀ n, mesh.reflect "vs_main" ≠ .error (.unsupportedVertexInput n) := by
  have hvalid : mesh.source = .valid := rfl
  have hentry : mesh.entry? "vs_main" = some vertices := rfl
  obtain ⟨hreports, hfails⟩ := interface_spec hvalid hentry
  obtain ⟨-, herror, hok⟩ := hfails fun g hg => absurd hg List.not_mem_nil
  have hshaped : ∀ l ∈ mesh.locatedInputs vertices, l.type.inputFormat?.isSome := by decide
  have hnone : ∀ p l, mesh.DeclaresInput vertices p l → ¬l.Shapeless := by
    intro p l hl
    rw [← Located.exists_vertexInput_eq_ok_iff, exists_vertexInput_iff]
    exact hshaped l ((enumerates_locatedInputs mesh vertices).mem_iff.2 ⟨p, hl⟩)
  obtain ⟨i, hi⟩ := hok.2 ⟨⟨.vertex, rfl⟩, fun _ => hnone⟩
  refine ⟨hvalid, hentry, ⟨i, hi, hreports i hi⟩, fun n h => ?_⟩
  obtain ⟨-, l, ⟨p, hl, hshapeless, -⟩, -⟩ := (herror n).1 h
  exact hnone p l hl hshapeless

end ShaderModule

end PassForge
