import PassForge.Shader.Module

/-!
# Which globals an entry point uses

An entry point uses a global if its own body does, or the body of a function that it reaches through
a chain of calls.

* `ShaderModule.reachable` follows the calls until nothing new can appear.
* `ShaderModule.usedGlobals` are the names of all globals that the entry point uses.
-/

namespace PassForge

namespace ShaderModule

/-- The functions of the module whose names are listed. -/
def functionsNamed (m : ShaderModule) (names : List String) : List FunctionDecl :=
  m.functions.filter fun f => names.contains f.name

/-- The names in `names` together with those that their functions call and that are new. -/
def expandCalls (m : ShaderModule) (names : List String) : List String :=
  (m.functionsNamed names).foldl
    (fun found f => found ++ f.calls.filter fun name => !found.contains name) names

/-- The names that chains of at most `rounds` calls lead to. -/
def reachableIn (m : ShaderModule) : Nat → List String → List String
  | 0, names => names
  | rounds + 1, names => m.reachableIn rounds (m.expandCalls names)

/-- The names of the functions that chains of calls from `roots` lead to. A chain without repetition
is no longer than the number of functions. -/
def reachable (m : ShaderModule) (roots : List String) : List String :=
  m.reachableIn m.functions.length roots

/-- The names of the globals that an entry point uses. -/
def usedGlobals (m : ShaderModule) (e : EntryPoint) : List String :=
  e.uses ++ (m.functionsNamed (m.reachable e.calls)).flatMap FunctionDecl.uses

end ShaderModule

end PassForge
