import PassForge.Binding.Merge
import PassForge.Document.Convert

/-!
# Reports on interfaces and merged groups
-/

namespace PassForge

open Document (table)

instance : ToDocument ResourceKind where
  document
    | .uniformBuffer => table [("type", .text "uniformBuffer")]
    | .storageBuffer readOnly =>
      table [("type", .text "storageBuffer"), ("read_only", document readOnly)]
    | .texture dimension sample multisampled => table [
        ("type", .text "texture"), ("dimension", document dimension.name),
        ("sample", document sample.name), ("multisampled", document multisampled)]
    | .storageTexture dimension access format => table [
        ("type", .text "storageTexture"), ("dimension", document dimension.name),
        ("access", document access.name), ("format", document format)]
    | .sampler comparison => table [("type", .text "sampler"), ("comparison", document comparison)]

instance : ToDocument ShaderBinding where
  document b := table [
    ("name", document b.name), ("group", document b.group), ("binding", document b.binding),
    ("kind", document b.kind), ("size", document b.size)]

instance : ToDocument InputFormat where
  document f := table [
    ("kind", document f.kind.name), ("components", document f.components),
    ("width", document f.width)]

instance : ToDocument VertexInput where
  document v := table [
    ("name", document v.name), ("location", document v.location), ("format", document v.format)]

instance : ToDocument ColorOutput where
  document o := table [("location", document o.location), ("components", document o.components)]

/-- The interface of an entry point, with the names of its bindings by group. -/
instance : ToDocument ShaderInterface where
  document i := table [
    ("entry_point", document i.entryPoint), ("stage", document i.stage.name),
    ("bindings", document i.bindings), ("vertex_inputs", document i.vertexInputs),
    ("color_outputs", document i.colorOutputs), ("workgroup_size", document i.workgroupSize),
    ("group_count", document i.groupCount),
    ("groups", document (i.groups.map fun g => (g.1, g.2.map ShaderBinding.name)))]

instance : ToDocument Visibility := ⟨fun v => document v.names⟩

instance : ToDocument MergedBinding where
  document b := table [
    ("name", document b.name), ("binding", document b.binding), ("kind", document b.kind),
    ("size", document b.size), ("visibility", document b.visibility)]

instance : ToDocument MergedGroup where
  document g := table [("index", document g.index), ("bindings", document g.bindings)]

end PassForge
