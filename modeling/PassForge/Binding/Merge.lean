import PassForge.Error
import PassForge.Shader.Interface

/-!
# Merged bindings

The stages of a pipeline share its bind groups. `merge` joins the bindings of all stages group by
group.

* Bindings of one group are the same if they have the same name. They must agree in kind; slot and
  size are those of the last stage, and every stage that uses the binding sees it.
* The bindings of a merged group ascend by slot, and no two of them share one.
* Groups are listed from 0 to the highest used one, the unused ones among them empty.
-/

namespace PassForge

/-- One binding of a merged group. -/
structure MergedBinding where
  name : String
  binding : Nat
  kind : ResourceKind
  /-- Bytes of the bound type, for buffers. -/
  size : Option Nat
  /-- Every stage that uses the binding. -/
  visibility : Visibility
  deriving DecidableEq

/-- The bindings of all stages in one group, by ascending slot. -/
structure MergedGroup where
  index : Nat
  bindings : List MergedBinding
  deriving DecidableEq

namespace MergedBinding

/-- A binding that one stage uses. -/
def ofUse (stage : Stage) (b : ShaderBinding) : MergedBinding where
  name := b.name
  binding := b.binding
  kind := b.kind
  size := b.size
  visibility := stage.visibility

/-- A binding together with a later use of it. -/
def join (m : MergedBinding) (stage : Stage) (b : ShaderBinding) :
    Except CompileError MergedBinding :=
  if m.kind = b.kind then
    .ok { m with
      binding := b.binding
      size := b.size
      visibility := m.visibility.union stage.visibility }
  else .error (.conflictingKind b.name)

end MergedBinding

/-- Adds a use to merged bindings: joins the binding of the same name, or stands at the end. -/
def addUse (stage : Stage) (b : ShaderBinding) :
    List MergedBinding → Except CompileError (List MergedBinding)
  | [] => .ok [.ofUse stage b]
  | m :: rest =>
    if m.name = b.name then do return (← m.join stage b) :: rest
    else do return m :: (← addUse stage b rest)

/-- The uses of the bindings of one group, stage after stage. -/
def groupUses (stages : List ShaderInterface) (group : Nat) : List (Stage × ShaderBinding) :=
  stages.flatMap fun i => (i.inGroup group).map fun b => (i.stage, b)

/-- The first two neighbours that have the same slot. -/
def clash? : List MergedBinding → Option (MergedBinding × MergedBinding)
  | a :: b :: rest => if a.binding = b.binding then some (a, b) else clash? (b :: rest)
  | _ => none

/-- The merged bindings of one group. -/
def mergeGroup (stages : List ShaderInterface) (group : Nat) : Except CompileError MergedGroup := do
  let merged ← (groupUses stages group).foldlM (fun ms u => addUse u.1 u.2 ms) []
  let sorted := merged.mergeSort fun a b => decide (a.binding ≤ b.binding)
  match clash? sorted with
  | some (a, b) => throw (.conflictingBinding group a.binding a.name b.name)
  | none => return ⟨group, sorted⟩

/-- Fails unless a stage uses fewer groups than the limit and only groups below it. -/
def checkGroups (limit : Nat) (i : ShaderInterface) : Except CompileError Unit :=
  if limit ≤ i.groupCount then .error (.tooManyBindGroups i.stage i.groupCount limit)
  else
    match i.bindings.find? fun b => limit ≤ b.group with
    | some b => .error (.groupOutOfRange b.group limit)
    | none => .ok ()

/-- The number of groups up to the highest used one. -/
def groupSpan (stages : List ShaderInterface) : Nat :=
  (stages.flatMap ShaderInterface.bindings).foldl (fun n b => max n (b.group + 1)) 0

/-- The merged groups of the stages of a pipeline, on a device with the given limit. -/
def merge (stages : List ShaderInterface) (limit : Nat) :
    Except CompileError (List MergedGroup) := do
  stages.forM (checkGroups limit)
  (List.range (groupSpan stages)).mapM (mergeGroup stages)

end PassForge
