import PassForge.Device.Pipeline
import PassForge.Document.Convert
import PassForge.Options.Basic

/-!
# Reports on pipeline states and options
-/

namespace PassForge

open Document (table)

instance : ToDocument PrimitiveState where
  document p := table [
    ("topology", document p.topology.name),
    ("strip_index_format", document (p.stripIndexFormat.map IndexFormat.name)),
    ("front_face", document p.frontFace.name), ("cull_mode", document (p.cullFace.map Face.name)),
    ("unclipped_depth", document false), ("polygon_mode", .text "fill"),
    ("conservative", document false)]

instance : ToDocument BlendComponent where
  document c := table [
    ("srcFactor", document c.source.name), ("dstFactor", document c.destination.name),
    ("operation", .text "add")]

instance : ToDocument BlendState where
  document b := table [("color", document b.color), ("alpha", document b.alpha)]

instance : ToDocument StencilFace where
  document f := document [f.compare.name, f.fail.name, f.depthFail.name, f.pass.name]

instance : ToDocument StencilState where
  document s := table [
    ("front", document s.front), ("back", document s.back), ("read_mask", document s.readMask),
    ("write_mask", document s.writeMask)]

instance : ToDocument MultisampleState where
  document m := table [
    ("count", document m.count), ("mask", .text ("0x" ++ Text.hexPadded 16 m.mask.toNat)),
    ("alpha_to_coverage", document m.alphaToCoverage)]

instance : ToDocument ColorTarget where
  document t := table [
    ("format", document t.format.name), ("blend", document t.blend),
    ("write_mask", document t.writeMask)]

instance : ToDocument DepthStencilState where
  document s := table [
    ("format", document s.format.name), ("write", document s.depthWrite),
    ("compare", document s.depthCompare.name), ("stencil", document s.stencil),
    ("bias", document s.bias), ("bias_slope", document s.biasSlope),
    ("bias_clamp", document s.biasClamp)]

instance : ToDocument VertexAttribute where
  document a := table [
    ("format", document a.format.name), ("offset", document a.offset),
    ("location", document a.location)]

instance : ToDocument VertexBufferLayout where
  document l := table [
    ("stride", document l.stride), ("step", .text "vertex"), ("attributes", document l.attributes)]

instance : ToDocument Pipeline where
  document p := table [
    ("serial", document p.serial), ("label", document p.label),
    ("entry_points", document p.entryPoints), ("vertex_buffers", document p.vertexBuffers),
    ("targets", document p.targets), ("primitive", document p.primitive),
    ("depth_stencil", document p.depthStencil), ("sample_count", document p.sampleCount)]

instance : ToDocument Color := ⟨fun c => document c.components⟩

instance : ToDocument PrimitiveOptions where
  document o := table [("topology", document o.topology.name), ("cull", document o.cull.name)]

instance : ToDocument ColorOptions where
  document o := table [
    ("blend", document o.blend.name), ("loadStore", document o.load.name),
    ("clearColor", document o.clearColor)]

instance : ToDocument DepthOptions where
  document o := table [
    ("depthLoadStore", document o.depthLoad.name), ("depthCompare", document o.depthCompare.name),
    ("depthClearValue", document o.depthClear), ("depthReadOnly", document o.depthReadOnly),
    ("depthBias", document o.depthBias), ("depthBiasSlopeScale", document o.depthBiasSlope),
    ("stencilState", document o.stencil.name), ("stencilLoadStore", document o.stencilLoad.name),
    ("stencilClearValue", document o.stencilClear), ("stencilReadOnly", document o.stencilReadOnly)]

end PassForge
