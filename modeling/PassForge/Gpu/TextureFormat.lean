/-!
# Texture formats

The texel formats a texture can have, each with the facts that a `FormatInfo` lists: its names, its
depth and stencil aspects, the size of a block of texels and the class of values a shader samples.
-/

namespace PassForge

/-- The class of values that a shader reads from a sampled texture. -/
inductive SampleType where
  /-- Floating point values; only filterable ones can be interpolated. -/
  | float (filterable : Bool)
  /-- Depth values. -/
  | depth
  /-- Signed integers. -/
  | sint
  /-- Unsigned integers. -/
  | uint
  deriving DecidableEq

/-- The shown text of a sample type. -/
def SampleType.text : SampleType → String
  | .float true => "Float \x7b filterable: true \x7d"
  | .float false => "Float \x7b filterable: false \x7d"
  | .depth => "Depth"
  | .sint => "Sint"
  | .uint => "Uint"

/-- A texel format. -/
inductive TextureFormat where
  | rgba8Unorm | bgra8Unorm | r8Unorm
  | r32Float | rg32Float | rgba32Float | rgba16Float
  | r32Uint | r32Sint | rgba8Uint | rgba8Snorm
  | rgb10a2Unorm | rg11b10Ufloat | rgb9e5Ufloat | rgba8UnormSrgb | rg16Sint
  | depth16Unorm | depth24Plus | depth24PlusStencil8 | depth32Float | depth32FloatStencil8
  | stencil8
  | bc1RgbaUnorm | bc3RgbaUnorm | bc4RUnorm | bc7RgbaUnorm | etc2Rgb8Unorm | eacRg11Snorm
  deriving DecidableEq

/-- What is known about a texel format. -/
structure FormatInfo where
  /-- The name in descriptions. -/
  name : String
  /-- The name in messages. -/
  title : String
  /-- Whether there is a depth aspect. -/
  depth : Bool := false
  /-- Whether there is a stencil aspect. -/
  stencil : Bool := false
  /-- Width and height of a block, in texels. -/
  block : Nat × Nat := (1, 1)
  /-- Bytes of one block in a copy, if the format can be copied as a whole. -/
  copySize : Option Nat
  /-- The class of values of the aspect that is sampled. -/
  sample : SampleType := .float true

namespace TextureFormat

/-- The facts about each format. -/
def info : TextureFormat → FormatInfo
  | rgba8Unorm => { name := "rgba8unorm", title := "Rgba8Unorm", copySize := some 4 }
  | bgra8Unorm => { name := "bgra8unorm", title := "Bgra8Unorm", copySize := some 4 }
  | r8Unorm => { name := "r8unorm", title := "R8Unorm", copySize := some 1 }
  | r32Float =>
    { name := "r32float", title := "R32Float", copySize := some 4, sample := .float false }
  | rg32Float =>
    { name := "rg32float", title := "Rg32Float", copySize := some 8, sample := .float false }
  | rgba32Float =>
    { name := "rgba32float", title := "Rgba32Float", copySize := some 16, sample := .float false }
  | rgba16Float => { name := "rgba16float", title := "Rgba16Float", copySize := some 8 }
  | r32Uint => { name := "r32uint", title := "R32Uint", copySize := some 4, sample := .uint }
  | r32Sint => { name := "r32sint", title := "R32Sint", copySize := some 4, sample := .sint }
  | rgba8Uint => { name := "rgba8uint", title := "Rgba8Uint", copySize := some 4, sample := .uint }
  | rgba8Snorm => { name := "rgba8snorm", title := "Rgba8Snorm", copySize := some 4 }
  | rgb10a2Unorm => { name := "rgb10a2unorm", title := "Rgb10a2Unorm", copySize := some 4 }
  | rg11b10Ufloat => { name := "rg11b10ufloat", title := "Rg11b10Ufloat", copySize := some 4 }
  | rgb9e5Ufloat => { name := "rgb9e5ufloat", title := "Rgb9e5Ufloat", copySize := some 4 }
  | rgba8UnormSrgb => { name := "rgba8unorm-srgb", title := "Rgba8UnormSrgb", copySize := some 4 }
  | rg16Sint => { name := "rg16sint", title := "Rg16Sint", copySize := some 4, sample := .sint }
  | depth16Unorm =>
    { name := "depth16unorm", title := "Depth16Unorm", depth := true, copySize := some 2,
      sample := .depth }
  | depth24Plus =>
    { name := "depth24plus", title := "Depth24Plus", depth := true, copySize := none,
      sample := .depth }
  | depth24PlusStencil8 =>
    { name := "depth24plus-stencil8", title := "Depth24PlusStencil8", depth := true,
      stencil := true, copySize := none, sample := .depth }
  | depth32Float =>
    { name := "depth32float", title := "Depth32Float", depth := true, copySize := some 4,
      sample := .depth }
  | depth32FloatStencil8 =>
    { name := "depth32float-stencil8", title := "Depth32FloatStencil8", depth := true,
      stencil := true, copySize := none, sample := .depth }
  | stencil8 =>
    { name := "stencil8", title := "Stencil8", stencil := true, copySize := some 1,
      sample := .uint }
  | bc1RgbaUnorm =>
    { name := "bc1-rgba-unorm", title := "Bc1RgbaUnorm", block := (4, 4), copySize := some 8 }
  | bc3RgbaUnorm =>
    { name := "bc3-rgba-unorm", title := "Bc3RgbaUnorm", block := (4, 4), copySize := some 16 }
  | bc4RUnorm =>
    { name := "bc4-r-unorm", title := "Bc4RUnorm", block := (4, 4), copySize := some 8 }
  | bc7RgbaUnorm =>
    { name := "bc7-rgba-unorm", title := "Bc7RgbaUnorm", block := (4, 4), copySize := some 16 }
  | etc2Rgb8Unorm =>
    { name := "etc2-rgb8unorm", title := "Etc2Rgb8Unorm", block := (4, 4), copySize := some 8 }
  | eacRg11Snorm =>
    { name := "eac-rg11snorm", title := "EacRg11Snorm", block := (4, 4), copySize := some 16 }

/-- Every texel format. -/
def all : List TextureFormat := [
  rgba8Unorm, bgra8Unorm, r8Unorm, r32Float, rg32Float, rgba32Float, rgba16Float, r32Uint, r32Sint,
  rgba8Uint, rgba8Snorm, rgb10a2Unorm, rg11b10Ufloat, rgb9e5Ufloat, rgba8UnormSrgb, rg16Sint,
  depth16Unorm, depth24Plus, depth24PlusStencil8, depth32Float, depth32FloatStencil8, stencil8,
  bc1RgbaUnorm, bc3RgbaUnorm, bc4RUnorm, bc7RgbaUnorm, etc2Rgb8Unorm, eacRg11Snorm]

/-- The name in descriptions. -/
def name (f : TextureFormat) : String := f.info.name

/-- The name in messages. -/
def title (f : TextureFormat) : String := f.info.title

/-- The format with a given name. -/
def ofName? (s : String) : Option TextureFormat := all.find? fun f => f.name = s

/-- Whether there is a depth aspect. -/
def hasDepth (f : TextureFormat) : Bool := f.info.depth

/-- Whether there is a stencil aspect. -/
def hasStencil (f : TextureFormat) : Bool := f.info.stencil

/-- Whether the format can back a depth-stencil attachment. -/
def isDepthStencil (f : TextureFormat) : Bool := f.hasDepth || f.hasStencil

end TextureFormat

end PassForge
