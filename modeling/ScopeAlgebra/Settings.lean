import ScopeAlgebra.Policy
import ScopeAlgebra.Schema.Field
import ScopeAlgebra.Yaml.Document

/-!
# Settings

The defaults that apply where a request leaves something open. They are read from a document with a
section on resolution and one on the catalog. A document is taken as a whole or not at all: with any
fault in it every setting keeps its default.
-/

namespace ScopeAlgebra

/-- The families of catalog records. -/
inductive CatalogFamily where
  | standard
  | provider
  | named
  | module
  deriving DecidableEq, Repr, Inhabited

instance : Vocabulary CatalogFamily where
  title := "CatalogFamily"
  all := [.standard, .provider, .named, .module]
  word
    | .standard => "standard"
    | .provider => "provider"
    | .named => "named"
    | .module => "module"
  find_word := by intro a; cases a <;> rfl

/-- Which record survives when two share a reference id. -/
inductive CollisionPolicy where
  | firstWins
  | lastWins
  deriving DecidableEq, Repr, Inhabited

instance : Vocabulary CollisionPolicy where
  title := "CollisionPolicy"
  all := [.firstWins, .lastWins]
  word
    | .firstWins => "first_wins"
    | .lastWins => "last_wins"
  find_word := by intro a; cases a <;> rfl

/-- The defaults of the engine. -/
structure Settings where
  strict : Bool := true
  failureMode : FailureMode := .emptyScope
  allowInteractive : Bool := false
  collisions : CollisionPolicy := .firstWins
  familyOrder : List CatalogFamily := [.standard, .provider, .named, .module]
  deriving DecidableEq, Repr, Inhabited

/-- Settings as they were loaded, and whether a faulty document was ignored. -/
structure LoadedSettings where
  settings : Settings := {}
  warned : Bool := false
  deriving DecidableEq, Repr

namespace Settings

open Schema

/-- The policy that the settings ask for. -/
def policy (s : Settings) : Policy := .ofStrict s.strict

/-- Where the settings are kept. -/
def path : String := ".scopekit/config.yaml"

/-- The fields of a section; an empty value stands for a section without fields. -/
def section? (document : Json.Fields) (name : String) : Option Json.Fields :=
  match Json.Fields.get? document name with
  | none => some []
  | some (.object fields) => some fields
  | some json => if json.isEmpty then some [] else none

/-- Reads the settings from the fields of both sections. -/
def ofSections (resolution catalog : Json.Fields) : Checked Settings :=
  Checked.ok Settings.mk
    |>.ap (optional resolution "strict" true boolean)
    |>.ap (optional resolution "default_failure_mode" .emptyScope (member FailureMode))
    |>.ap (optional resolution "allow_interactive" false boolean)
    |>.ap (optional catalog "collision_policy" .firstWins (member CollisionPolicy))
    |>.ap (optional catalog "family_order" ({} : Settings).familyOrder
      (listOf .document (member CatalogFamily)))

/-- The settings of a document's fields, unless something is wrong with them. -/
def ofFields? (document : Json.Fields) : Option Settings := do
  -- Both sections have to be in order before either is read.
  let resolution ← section? document "resolution"
  let catalog ← section? document "catalog"
  match ofSections resolution catalog with
  | .ok settings =>
    if settings.familyOrder.eraseDups = settings.familyOrder then some settings else none
  | .error _ => none

/-- The settings of a document: the defaults for null, and, with a warning, for a faulty
document. -/
def ofJson : Json → LoadedSettings
  | .null => {}
  | .object fields =>
    match ofFields? fields with
    | some settings => ⟨settings, false⟩
    | none => ⟨{}, true⟩
  | _ => ⟨{}, true⟩

/-- The settings of a document file; without one the defaults apply. -/
def ofFile : Option String → LoadedSettings
  | none => {}
  | some content =>
    match Yaml.parse? content with
    | some json => ofJson json
    | none => ⟨{}, true⟩

end Settings

end ScopeAlgebra
