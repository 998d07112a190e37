import PassForge.Device.Journal
import PassForge.Report.Interface
import PassForge.Report.State

/-!
# Reports on events

Each event of a trace is shown as a table. Of the bytes of a write only their number and the first
few are shown.

* `Event.encoded?` shows what an event puts into the command encoder, with the commands of passes.
-/

namespace PassForge

open Document (table)

/-- Width, height and depth or number of layers. -/
def extent (width height depth : Nat) : Document := document [width, height, depth]

/-- The first sixteen bytes, two digits to base sixteen each. -/
def headText (data : Array UInt8) : String :=
  String.join ((data.extract 0 16).toList.map fun b => Text.hexPadded 2 b.toNat)

/-- The fields of a view. -/
def View.fields (v : View) : List (String × Document) := [
  ("serial", document v.serial), ("texture", document v.texture),
  ("dimension", document (v.dimension.map ViewDimension.name)), ("aspect", document v.aspect.name),
  ("base_mip", document v.baseMip), ("mips", document v.mips), ("base_layer", document v.baseLayer),
  ("layers", document v.layers)]

instance : ToDocument View := ⟨fun v => table v.fields⟩

/-! ## Bind groups -/

/-- The name of a sample type in binding types. -/
def SampleType.name : SampleType → String
  | .float true => "float"
  | .float false => "unfilterable-float"
  | .depth => "depth"
  | .sint => "sint"
  | .uint => "uint"

/-- A buffer binding type; offsets are never dynamic. -/
def bufferType (name : String) (minSize : Option Nat) : Document :=
  table [("buffer", document name), ("dynamic", document false), ("min_size", document minSize)]

instance : ToDocument BindingType where
  document
    | .uniformBuffer minSize => bufferType "uniform" minSize
    | .storageBuffer true minSize => bufferType "storage-read" minSize
    | .storageBuffer false minSize => bufferType "storage-read-write" minSize
    | .texture sample dimension multisampled => table [
        ("texture", document sample.name), ("dimension", document dimension.name),
        ("multisampled", document multisampled)]
    | .storageTexture access format dimension => table [
        ("storage_texture", document access.name), ("format", document format.name),
        ("dimension", document dimension.name)]
    | .sampler kind => table [("sampler", document kind.name)]

instance : ToDocument LayoutEntry where
  document e := table [
    ("binding", document e.binding), ("visibility", document e.visibility),
    ("type", document e.type), ("count", .null)]

/-- The fields of what is bound to a binding. -/
def BoundResource.fields : BoundResource → List (String × Document)
  | .buffer serial offset size =>
    [("buffer", document serial), ("offset", document offset), ("size", document size)]
  | .view v =>
    [("view", document v.serial), ("base_mip", document v.baseMip), ("mips", document v.mips)]
  | .sampler serial => [("sampler", document serial)]

instance : ToDocument GroupEntry :=
  ⟨fun e => table (("binding", document e.binding) :: e.resource.fields)⟩

/-! ## Passes -/

instance {α : Type} [ToDocument α] : ToDocument (LoadOp α) where
  document
    | .clear value => table [("clear", document value)]
    | .load => .text "load"

/-- A load operation; the contents are always stored. -/
def aspectOp {α : Type} [ToDocument α] (op : LoadOp α) : Document :=
  table [("load", document op), ("store", .text "store")]

instance : ToDocument ColorPass where
  document p := table [
    ("view", document p.view.serial), ("texture", document p.view.texture),
    ("resolve", document (p.resolve.map View.serial)), ("load", document p.load),
    ("store", .text "store")]

instance : ToDocument DepthPass where
  document p := table [
    ("view", document p.view.serial), ("texture", document p.view.texture),
    ("depth", document (p.depth.map aspectOp)), ("stencil", document (p.stencil.map aspectOp))]

/-- A command: its name and its numbers. -/
def command (name : String) (numbers : List Nat) : Document :=
  .list (.text name :: numbers.map document)

instance : ToDocument RenderCommand where
  document
    | .setPipeline p => command "set_pipeline" [p]
    | .setBindGroup index group => command "set_bind_group" [index, group]
    | .setVertexBuffer slot buffer => command "set_vertex_buffer" [slot, buffer]
    | .setIndexBuffer buffer format =>
      .list [.text "set_index_buffer", document buffer, document format.name]
    | .draw vertices instances => command "draw" [0, vertices, 0, instances]
    | .drawIndexed indices instances => command "draw_indexed" [0, indices, 0, 0, instances]
    | .drawIndirect buffer offset => command "draw_indirect" [buffer, offset]
    | .drawIndexedIndirect buffer offset => command "draw_indexed_indirect" [buffer, offset]
    | .multiDrawIndirect buffer offset count =>
      command "multi_draw_indirect" [buffer, offset, count]
    | .multiDrawIndexedIndirect buffer offset count =>
      command "multi_draw_indexed_indirect" [buffer, offset, count]

instance : ToDocument ComputeCommand where
  document
    | .setPipeline p => command "set_pipeline" [p]
    | .setBindGroup index group => command "set_bind_group" [index, group]
    | .dispatch x y z => command "dispatch" [x, y, z]
    | .dispatchIndirect buffer offset => command "dispatch_indirect" [buffer, offset]

/-! ## Events -/

/-- The name of a synchronisation point. -/
def SyncPoint.name : SyncPoint → String
  | .before => "begin"
  | .after => "finish"

/-- A texture as it was asked for. -/
def TextureRequest.fields (r : TextureRequest) : List (String × Document) := [
  ("label", document r.label), ("format", document r.format.name),
  ("size", extent r.width r.height r.layers), ("mips", document r.mips),
  ("samples", document r.samples), ("dimension", .text "2d"), ("usage", document r.usage.names)]

/-- The fields of a write of a mip level. -/
def LevelWrite.fields (w : LevelWrite) : List (String × Document) := [
  ("mip", document w.mip), ("origin", extent 0 0 w.layer), ("size", extent w.width w.height 1),
  ("len", document w.data.size), ("head", document (headText w.data)),
  ("layout_offset", document (0 : Nat)), ("bytes_per_row", document w.bytesPerRow),
  ("rows_per_image", document w.rows)]

/-- The fields of a device sampler. -/
def SamplerState.fields (s : SamplerState) : List (String × Document) := [
  ("address", document (List.replicate 3 s.address.name)), ("mag", document s.magnify.name),
  ("min", document s.minify.name), ("mipmap", document s.mipmap.name),
  ("lod_min", document s.lodMin), ("lod_max", document s.lodMax),
  ("compare", document (s.compare.map CompareFunction.name)), ("anisotropy", document s.anisotropy)]

/-- The name and the fields of an event. -/
def Event.parts : Event → String × List (String × Document)
  | .bufferCreated serial label size usage => ("create_buffer", [
      ("serial", document serial), ("label", document label), ("size", document size),
      ("usage", document usage.names), ("mapped", document false)])
  | .bufferWritten buffer offset data => ("write_buffer", [
      ("buffer", document buffer), ("offset", document offset), ("len", document data.size),
      ("head", document (headText data))])
  | .textureCreated serial request =>
    ("create_texture", ("serial", document serial) :: request.fields)
  | .textureWritten texture write =>
    ("write_texture", ("texture", document texture) :: write.fields)
  | .viewCreated label view => ("create_view", ("label", document label) :: view.fields)
  | .samplerCreated serial label state => ("create_sampler",
      ("serial", document serial) :: ("label", document label) :: state.fields)
  | .shaderModuleCreated serial label => ("create_shader_module", [
      ("serial", document serial), ("label", document label)])
  | .bindGroupLayoutCreated serial label entries => ("create_bind_group_layout", [
      ("serial", document serial), ("label", document label), ("entries", document entries)])
  | .bindGroupCreated serial label layout entries => ("create_bind_group", [
      ("serial", document serial), ("label", document label), ("layout", document layout),
      ("entries", document entries)])
  | .pipelineLayoutCreated serial label layouts => ("create_pipeline_layout", [
      ("serial", document serial), ("label", document label), ("layouts", document layouts)])
  | .renderPipelineCreated layout vertexModule fragmentModule samples pipeline =>
    ("create_render_pipeline", [
      ("layout", document layout), ("vertex_module", document vertexModule),
      ("fragment_module", document fragmentModule), ("multisample", document samples),
      ("pipeline", document pipeline)])
  | .computePipelineCreated layout shaderModule pipeline => ("create_compute_pipeline", [
      ("layout", document layout), ("module", document shaderModule),
      ("pipeline", document pipeline)])
  | .renderPass label colors depth _ => ("render_pass", [
      ("label", document label), ("color", document colors), ("depth_stencil", document depth)])
  | .computePass label _ => ("compute_pass", [("label", document label)])
  | .bufferCopied source target size => ("copy_buffer_to_buffer", [
      ("source", document source), ("destination", document target), ("size", document size)])
  | .textureCopied source sourceMip target targetMip width height => ("copy_texture_to_texture", [
      ("source", document source), ("source_mip", document sourceMip),
      ("destination", document target), ("destination_mip", document targetMip),
      ("size", extent width height 1)])
  | .handlerCalled point earlier => ("handler", [
      ("stage", document point.name), ("call", document earlier)])
  | .hookCalled => ("hook", [])

instance : ToDocument Event := ⟨fun e => table (("ev", document e.parts.1) :: e.parts.2)⟩

/-- What an event puts into the command encoder. -/
def Event.encoded? : Event → Option Document
  | .renderPass label colors depth commands => some (table [
      ("pass", .text "render"), ("label", document label),
      ("color", document (colors.map fun p => p.view.serial)),
      ("depth_stencil", document (depth.map fun p => p.view.serial)),
      ("commands", document commands)])
  | .computePass label commands => some (table [
      ("pass", .text "compute"), ("label", document label), ("commands", document commands)])
  | .bufferCopied source target size =>
    some (table [("copy_buffer", document [source, target, size])])
  | .textureCopied source sourceMip target targetMip _ _ =>
    some (table [("copy_texture", document [source, sourceMip, target, targetMip])])
  | _ => none

/-! ## The journal -/

instance : ToDocument BufferWritten := ⟨fun w => document [w.buffer, w.offset, w.length]⟩

instance : ToDocument TextureWritten := ⟨fun w => document [w.texture, w.mip, w.layer, w.length]⟩

instance : ToDocument Journal where
  document j := table [
    ("buffers", document j.buffers), ("textures", document j.textures),
    ("views", document j.views), ("samplers", document j.samplers),
    ("shader_modules", document j.shaderModules), ("bind_groups", document j.bindGroups),
    ("render_pipelines", document j.renderPipelines),
    ("compute_pipelines", document j.computePipelines),
    ("bind_group_layouts", document j.bindGroupLayouts),
    ("pipeline_layouts", document j.pipelineLayouts), ("buffer_writes", document j.bufferWrites),
    ("texture_writes", document j.textureWrites), ("render_passes", document j.renderPasses),
    ("compute_passes", document j.computePasses)]

end PassForge
