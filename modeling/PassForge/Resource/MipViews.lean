import PassForge.Resource.Texture

/-!
# Sequences of storage views

`Texture.mipViews` gives the storage views of a texture from a mip on, as a sequence that keeps its
own place: reading it moves no cursor, and nothing that happens to the texture afterwards changes
it.
-/

namespace PassForge

/-- A sequence of the storage views of a texture. -/
structure MipViews where
  /-- The views of all mips. -/
  views : List View
  /-- The mip at which the sequence starts. -/
  start : Nat
  /-- The mip that is read next. -/
  position : Nat
  deriving DecidableEq

namespace MipViews

/-- The next mip and its view, and the sequence after it. -/
def next? (m : MipViews) : Option ((Nat × View) × MipViews) :=
  m.views[m.position]?.map fun view =>
    ((m.position, view), { m with position := m.position + 1 })

/-- The sequence from its first mip on. -/
def restart (m : MipViews) : MipViews := { m with position := m.start }

/-- The mips that are left, with their views. -/
def remaining (m : MipViews) : List (Nat × View) :=
  (m.views.zipIdx.drop m.position).map fun p => (p.2, p.1)

end MipViews

/-- Selects storage access and gives the storage views from a mip on. -/
def Texture.mipViews (start : Nat) : Action Texture MipViews := do
  Texture.useAsStorage
  let t ← Action.object
  let first := min start t.mips
  return { views := t.storageViews.getD [], start := first, position := first }

end PassForge
