import PassForge.Gpu.DepthStencil

/-!
# How textures are sampled
-/

namespace PassForge

/-- What a sampler does outside of a texture. -/
inductive AddressMode where
  | clampToEdge | repeat | mirrorRepeat | clampToBorder
  deriving DecidableEq

namespace AddressMode

/-- The name of an address mode. -/
def name : AddressMode → String
  | clampToEdge => "clamp-to-edge"
  | .repeat => "repeat"
  | mirrorRepeat => "mirror-repeat"
  | clampToBorder => "clamp-to-border"

/-- The name of an address mode in shown values. -/
def title : AddressMode → String
  | clampToEdge => "ClampToEdge"
  | .repeat => "Repeat"
  | mirrorRepeat => "MirrorRepeat"
  | clampToBorder => "ClampToBorder"

/-- The address mode with a given name. -/
def ofName? (s : String) : Option AddressMode :=
  [clampToEdge, .repeat, mirrorRepeat, clampToBorder].find? fun m => m.name = s

end AddressMode

/-- How a sampler chooses between neighbouring texels. -/
inductive FilterMode where
  | nearest | linear
  deriving DecidableEq

namespace FilterMode

/-- The name of a filter. -/
def name : FilterMode → String
  | nearest => "nearest"
  | linear => "linear"

/-- The name of a filter in shown values. -/
def title : FilterMode → String
  | nearest => "Nearest"
  | linear => "Linear"

/-- The filter with a given name. -/
def ofName? (s : String) : Option FilterMode := [nearest, linear].find? fun m => m.name = s

end FilterMode

/-- What a sampler can be bound as. -/
inductive SamplerKind where
  | filtering
  /-- Nearest filtering throughout, which textures without interpolation allow. -/
  | nonFiltering
  | comparison
  deriving DecidableEq

namespace SamplerKind

/-- The name of a kind in binding types. -/
def name : SamplerKind → String
  | filtering => "filtering"
  | nonFiltering => "non-filtering"
  | comparison => "comparison"

/-- The name of a kind in shown values. -/
def title : SamplerKind → String
  | filtering => "Filtering"
  | nonFiltering => "NonFiltering"
  | comparison => "Comparison"

end SamplerKind

/-- The state of a device sampler. -/
structure SamplerState where
  /-- The address mode in all directions. -/
  address : AddressMode
  magnify : FilterMode
  minify : FilterMode
  mipmap : FilterMode
  lodMin : Binary32
  lodMax : Binary32
  anisotropy : Nat
  compare : Option CompareFunction
  deriving DecidableEq

end PassForge
