/-!
# Blending of colour targets
-/

namespace PassForge

/-- A factor that a blend operand is multiplied by. -/
inductive BlendFactor where
  | zero | one | sourceAlpha
  deriving DecidableEq

/-- The name of a factor. -/
def BlendFactor.name : BlendFactor → String
  | .zero => "zero"
  | .one => "one"
  | .sourceAlpha => "src-alpha"

/-- The sum of the source and the destination, each multiplied by its factor. -/
structure BlendComponent where
  source : BlendFactor
  destination : BlendFactor
  deriving DecidableEq

/-- How the colour and the alpha of a target are blended. -/
structure BlendState where
  color : BlendComponent
  alpha : BlendComponent
  deriving DecidableEq

/-- The blending that a colour attachment asks for. An unknown name blends nothing. -/
inductive Blending where
  /-- The source replaces the destination. -/
  | opaqueSource
  /-- The source, scaled by its alpha, is added to the destination. -/
  | addAlpha
  /-- There is no blend state. -/
  | disable
  | unrecognized
  deriving DecidableEq

namespace Blending

instance : Inhabited Blending := ⟨opaqueSource⟩

/-- The name of a blending in configurations. -/
def name : Blending → String
  | opaqueSource => "opaque"
  | addAlpha => "addAlphaSrcOneDst"
  | disable => "disable"
  | unrecognized => "Unrecognized"

/-- The name of a blending in shown values. -/
def title : Blending → String
  | opaqueSource => "Opaque"
  | addAlpha => "AddAlphaSrcOneDst"
  | disable => "Disable"
  | unrecognized => "Unrecognized"

/-- The blending with a given name; any other text is unrecognized. -/
def ofName (s : String) : Blending :=
  ([opaqueSource, addAlpha, disable].find? fun b => b.name = s).getD unrecognized

/-- The blend state, if there is any. -/
def state? : Blending → Option BlendState
  | opaqueSource => some ⟨⟨.one, .zero⟩, ⟨.one, .zero⟩⟩
  | addAlpha => some ⟨⟨.sourceAlpha, .one⟩, ⟨.sourceAlpha, .one⟩⟩
  | disable | unrecognized => none

end Blending

end PassForge
