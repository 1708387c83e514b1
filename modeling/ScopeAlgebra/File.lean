import ScopeAlgebra.Vocabulary

/-!
# Files

A file has a url, a path relative to the workspace, and the content root it lives under. It may
belong to a module, or to a library.
-/

namespace ScopeAlgebra

/-- The kinds of content roots. -/
inductive RootKind where
  | source
  | test
  | library
  | scratch
  deriving DecidableEq, Repr, Inhabited

instance : Vocabulary RootKind where
  title := "RootKind"
  all := [.source, .test, .library, .scratch]
  word
    | .source => "source"
    | .test => "test"
    | .library => "library"
    | .scratch => "scratch"
  find_word := by intro a; cases a <;> rfl

/-- Whether files under the root belong to the project itself. -/
def RootKind.isProject : RootKind → Bool
  | .source | .test => true
  | _ => false

/-- One file of a workspace. -/
structure File where
  url : String
  path : String
  module? : Option String := none
  root : RootKind := .source
  library? : Option String := none
  deriving DecidableEq, Repr, Inhabited

end ScopeAlgebra
