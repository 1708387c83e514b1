import ScopeAlgebra.Vocabulary

/-!
# Modules

A module names the modules and the libraries it depends on. A flavor says which of these its scope
takes in.
-/

namespace ScopeAlgebra

/-- A module of a workspace. -/
structure Module where
  name : String
  dependencies : List String := []
  libraries : List String := []
  deriving DecidableEq, Repr, Inhabited

/-- The variants of a module's scope. -/
inductive ModuleFlavor where
  | plain
  | withDependencies
  | withLibraries
  | withDependenciesAndLibraries
  deriving DecidableEq, Repr, Inhabited

instance : Vocabulary ModuleFlavor where
  title := "ModuleFlavor"
  all := [.plain, .withDependencies, .withLibraries, .withDependenciesAndLibraries]
  word
    | .plain => "module"
    | .withDependencies => "module_with_dependencies"
    | .withLibraries => "module_with_libraries"
    | .withDependenciesAndLibraries => "module_with_dependencies_and_libraries"
  find_word := by intro a; cases a <;> rfl

namespace ModuleFlavor

/-- Whether the scope takes in the modules depended on, directly or through others. -/
def takesDependencies : ModuleFlavor → Bool
  | .withDependencies | .withDependenciesAndLibraries => true
  | _ => false

/-- Whether the scope takes in libraries. -/
def takesLibraries : ModuleFlavor → Bool
  | .withLibraries | .withDependenciesAndLibraries => true
  | _ => false

end ModuleFlavor

end ScopeAlgebra
