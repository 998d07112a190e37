import PassForge.Assignment.Attributes
import PassForge.Assignment.Uniforms
import PassForge.Draw.Vertices
import PassForge.Report.Event
import PassForge.Resource.Attachment
import PassForge.Resource.Sampler
import PassForge.Resource.Shader

/-!
# Reports on resources and assignments
-/

namespace PassForge

open Document (table)

/-- The fields of a buffer. -/
def Buffer.fields (b : Buffer) : List (String × Document) := [
  ("id", document b.id), ("label", document b.label), ("kind", document b.kind.title),
  ("size", document b.size), ("usage", document b.kind.usage.names),
  ("index_count", document b.indexCount), ("property", document b.assignment.role.name)]

/-- The fields of a texture. -/
def Texture.fields (t : Texture) : List (String × Document) := [
  ("id", document t.id), ("label", document t.label), ("kind", document t.kind.title),
  ("format", document t.format.name), ("size", extent t.width t.height t.layers),
  ("mips", document t.mips), ("samples", document t.samples), ("usage", document t.usage.names),
  ("mode", document t.mode.title), ("sample_type", document t.sampleType.text),
  ("property", document t.assignment.role.name)]

instance : ToDocument Sampler where
  document s := table [
    ("id", document s.id), ("kind", document s.kind.title), ("binding", document s.kind.name),
    ("property", document s.assignment.role.name), ("label", document s.desc.label),
    ("address", document s.desc.address.name), ("mag", document s.desc.magnify.name),
    ("min", document s.desc.minify.name), ("mipmap", document s.desc.mipmap.name),
    ("lod", document [s.desc.lodMin, s.desc.lodMax]), ("anisotropy", document s.desc.anisotropy),
    ("compare", document s.desc.compare.name)]

instance : ToDocument Shader where
  document s := table [
    ("id", document s.id), ("stage", document s.stage.name), ("label", document s.label),
    ("entry_point", document s.entryPoint), ("has_code", document true)]

/-- A colour attachment on its texture. -/
def ColorAttachment.report (a : ColorAttachment) (t : Texture) : Document := table [
  ("id", document a.id), ("texture", document a.texture),
  ("samples", document t.samples), ("target", document (a.target t)),
  ("options", document a.options)]

/-- A depth-stencil attachment on its texture. -/
def DepthAttachment.report (a : DepthAttachment) (t : Texture) : Document := table [
  ("id", document a.id), ("texture", document a.texture),
  ("state", document (a.state t)), ("options", document a.options)]

instance : ToDocument Assignment where
  document a := table [("id", document a.resource), ("format", document a.role.name)]

instance : ToDocument AttributeTable where
  document t := table [
    ("len", document t.assignments.size), ("empty", document t.assignments.isEmpty),
    ("by_buffer", document t.byBuffer),
    ("records", document (t.byBuffer.flatMap fun g => g.2.map fun name => (name, g.1)))]

/-- The fields of a table of uniforms. -/
def UniformTable.fields (t : UniformTable) : List (String × Document) :=
  let records := t.byResource.flatMap fun g => g.2.map fun name => Document.list [
    document name, document ((t.assignment? name).map fun a => a.role.name), document g.1]
  [("len", document t.assignments.size), ("empty", document t.assignments.isEmpty),
    ("by_resource", document t.byResource), ("records", document records)]

instance : ToDocument VertexState where
  document s := table [("layouts", document s.layouts), ("buffers", document s.buffers)]

end PassForge
