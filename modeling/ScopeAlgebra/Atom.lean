import ScopeAlgebra.Module
import ScopeAlgebra.Policy

/-!
# Atoms

An atom describes one scope: by a reference into the catalog, or by the payload that its kind calls
for.
-/

namespace ScopeAlgebra

/-- The kinds of atoms. -/
inductive AtomKind where
  | catalogRef
  | standard
  | module
  | namedPattern
  | adhocPattern
  | directory
  | fileSet
  | provider
  deriving DecidableEq, Repr, Inhabited

instance : Vocabulary AtomKind where
  title := "AtomKind"
  all := [.catalogRef, .standard, .module, .namedPattern, .adhocPattern, .directory,
    .fileSet, .provider]
  word
    | .catalogRef => "catalog_ref"
    | .standard => "standard"
    | .module => "module"
    | .namedPattern => "named_pattern"
    | .adhocPattern => "adhoc_pattern"
    | .directory => "directory"
    | .fileSet => "file_set"
    | .provider => "provider"
  find_word := by intro a; cases a <;> rfl

/-- Whether the reference id of a kind is derived from its payload alone. -/
def AtomKind.isAdhoc : AtomKind → Bool
  | .adhocPattern | .directory | .fileSet => true
  | _ => false

/-- Whether a kind is always looked up by reference. -/
def AtomKind.isReference : AtomKind → Bool
  | .catalogRef | .provider => true
  | _ => false

/-- The description of one scope. -/
structure Atom where
  id : String
  kind : AtomKind := .catalogRef
  refId? : Option String := none
  standardId? : Option String := none
  moduleName? : Option String := none
  flavor? : Option ModuleFlavor := none
  scopeName? : Option String := none
  holderId? : Option String := none
  pattern? : Option String := none
  directoryUrl? : Option String := none
  recursive : Bool := true
  fileUrls : List String := []
  providerId? : Option String := none
  onFailure? : Option FailureMode := none
  deriving DecidableEq, Repr, Inhabited

end ScopeAlgebra
