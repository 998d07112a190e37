import PassForge.Assignment.Bag
import PassForge.Resource.Action
import PassForge.Text.Structure

/-!
# Samplers

A `Sampler` gets its device sampler on first use. One that does not filter has nearest filters and
no anisotropy, whatever its description says.
-/

namespace PassForge

/-- What a sampler is created from. -/
structure SamplerDesc where
  /-- An id to take; a sampler that is already registered under it is used instead. -/
  id : Option ResourceId := none
  label : Option String := none
  address : AddressMode := .clampToEdge
  magnify : FilterMode := .linear
  minify : FilterMode := .linear
  mipmap : FilterMode := .linear
  lodMin : Binary32 := .ofNat 0
  lodMax : Binary32 := .ofNat 32
  anisotropy : Nat := 1
  /-- The comparison of a comparison sampler. -/
  compare : Comparison := .known .always
  deriving DecidableEq

/-- A sampler. -/
structure Sampler where
  id : ResourceId
  kind : SamplerKind
  desc : SamplerDesc
  /-- The serial of the device sampler, once there is one. -/
  device : Option Nat := none
  deriving DecidableEq

namespace Sampler

/-- The sampler with the given id and kind that a description asks for. -/
def create (kind : SamplerKind) (desc : SamplerDesc) (id : ResourceId) : Sampler where
  id := id
  kind := kind
  desc :=
    if kind = .nonFiltering then
      { desc with magnify := .nearest, minify := .nearest, mipmap := .nearest, anisotropy := 1 }
    else desc

/-- The state of the device sampler. Only a comparison sampler compares; it always passes if the
name of its comparison is unknown. -/
def state (s : Sampler) : SamplerState where
  address := s.desc.address
  magnify := s.desc.magnify
  minify := s.desc.minify
  mipmap := s.desc.mipmap
  lodMin := s.desc.lodMin
  lodMax := s.desc.lodMax
  anisotropy := s.desc.anisotropy
  compare := if s.kind = .comparison then some (s.desc.compare.function?.getD .always) else none

/-- The device sampler, created on first use. -/
def handle : Action Sampler Nat := do
  let s ← Action.object
  match s.device with
  | some serial => return serial
  | none =>
    let serial ← Action.call (Device.createSampler s.desc.label s.state)
    Action.change fun s => { s with device := some serial }
    return serial

/-- The assignment of a sampler. -/
def assignment (s : Sampler) : Assignment := ⟨s.id, .textureSampler⟩

end Sampler

/-- The shown text of a description. -/
def SamplerDesc.text (d : SamplerDesc) : String :=
  Text.fields "SamplerDesc" [
    ("id", Text.option (d.id.map ResourceId.text)), ("label", Text.label d.label),
    ("address_mode", d.address.title), ("mag_filter", d.magnify.title),
    ("min_filter", d.minify.title), ("mipmap_filter", d.mipmap.title),
    ("lod_min_clamp", d.lodMin.text), ("lod_max_clamp", d.lodMax.text),
    ("anisotropy_clamp", toString d.anisotropy), ("compare", d.compare.title)]

/-- The shown text of a sampler. -/
def Sampler.text (s : Sampler) : String :=
  Text.fields "Sampler" [("id", s.id.text), ("kind", s.kind.title), ("desc", s.desc.text)]

end PassForge
