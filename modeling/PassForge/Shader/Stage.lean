import PassForge.Gpu.Usage

/-!
# Pipeline stages
-/

namespace PassForge

/-- A stage of a pipeline that runs a shader. -/
inductive Stage where
  | vertex | fragment | compute
  deriving DecidableEq, Inhabited

namespace Stage

/-- The name of a stage. -/
def name : Stage → String
  | vertex => "vertex"
  | fragment => "fragment"
  | compute => "compute"

/-- The name of a stage in shown values. -/
def title : Stage → String
  | vertex => "Vertex"
  | fragment => "Fragment"
  | compute => "Compute"

/-- The stage with a given name. -/
def ofName? (s : String) : Option Stage := [vertex, fragment, compute].find? fun x => x.name = s

/-- The stage alone, as a set of stages. -/
def visibility : Stage → Visibility
  | vertex => { vertex := true }
  | fragment => { fragment := true }
  | compute => { compute := true }

end Stage

end PassForge
