import PassForge.Binding.Resolve

/-!
# Bind group layouts

A `GroupLayout` is a merged group with the layout entries of its bindings and the device layout made
of them. What an entry takes follows from the shader, and where the shader leaves it open from the
resource that is assigned: whether floats can be filtered, the format of a storage texture, whether
a sampler filters.
-/

namespace PassForge

/-- A merged group with its layout. -/
structure GroupLayout where
  group : MergedGroup
  entries : List LayoutEntry
  /-- The serial of the device layout. -/
  layout : Nat
  deriving DecidableEq

/-- The smallest size that a buffer binding demands; a size of 0 demands nothing. -/
def MergedBinding.minSize (b : MergedBinding) : Option Nat := b.size.filter (· ≠ 0)

/-- The sample type of a texture binding. The shader does not say whether floats can be filtered; the
format of the texture does. -/
def SampleKind.typeFor (k : SampleKind) (t : Texture) : SampleType :=
  match k with
  | .float => .float (t.sampleType = .float true)
  | .depth => .depth
  | .sint => .sint
  | .uint => .uint

/-- What a binding takes, given the resource behind it. -/
def MergedBinding.type (b : MergedBinding) (r : Resolved) : Except CompileError BindingType :=
  match b.kind, r with
  | .uniformBuffer, .buffer _ => .ok (.uniformBuffer b.minSize)
  | .storageBuffer readOnly, .buffer _ => .ok (.storageBuffer readOnly b.minSize)
  | .texture dimension sample multisampled, .texture t =>
    .ok (.texture (sample.typeFor t) dimension multisampled)
  | .storageTexture dimension access _, .texture t =>
    .ok (.storageTexture access t.format dimension)
  | .sampler true, .sampler _ => .ok (.sampler .comparison)
  | .sampler false, .sampler s => .ok (.sampler s.kind)
  | _, r => .error (.unsupportedUniform b.name r.role)

/-- The layout entry of a binding. -/
def layoutEntry (c : Context) (table : UniformTable) (group : Nat) (b : MergedBinding) :
    Except CompileError LayoutEntry := do
  let resolved ← resolve c table group b
  return ⟨b.binding, b.visibility, ← b.type resolved⟩

/-- Makes the layout of a merged group. -/
def makeLayout (table : UniformTable) (g : MergedGroup) : Work CompileError GroupLayout := do
  let c ← Work.context
  let entries ← (g.bindings.mapM (layoutEntry c table g.index) : Except CompileError _)
  let label := "bind group layout " ++ toString g.index
  return ⟨g, entries, ← Work.call (Device.createBindGroupLayout label entries)⟩

/-- Makes the layouts of all groups that the stages of a pipeline use, in the order of the groups. -/
def makeLayouts (stages : List ShaderInterface) (table : UniformTable) :
    Work CompileError (List GroupLayout) := do
  let c ← Work.context
  let groups ← (merge stages c.device.limits.maxBindGroups : Except CompileError _)
  groups.mapM (makeLayout table)

/-- Makes the pipeline layout of a list of groups. -/
def makePipelineLayout (label : Option String) (layouts : List GroupLayout) :
    Work CompileError Nat :=
  Work.call (Device.createPipelineLayout label (layouts.map GroupLayout.layout))

end PassForge
