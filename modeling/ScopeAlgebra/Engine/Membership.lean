import ScopeAlgebra.Engine.Basic

/-!
# Membership

Whether a file belongs to the scope of a descriptor, and which of many files do.
-/

namespace ScopeAlgebra

/-- Whether one file belongs to a scope. -/
structure FileAnswer where
  url : String
  isMember : Bool
  displayName : String
  shape : Shape
  diagnostics : Diagnostics
  deriving DecidableEq, Repr

/-- Which urls belong to a scope, which do not, and which are not files of the workspace. -/
structure FilterAnswer where
  displayName : String
  shape : Shape
  matched : List String
  excluded : List String
  missing : List String
  diagnostics : Diagnostics
  deriving DecidableEq, Repr

namespace Engine

/-- Whether the file with a url belongs to the scope of a descriptor. -/
def containsFile (e : Engine) (d : Descriptor) (url : String) (allowInteractive? : Option Bool) :
    Except EngineError FileAnswer := do
  let scope ← e.resolve d allowInteractive? (some true)
  match e.workspace.findFile? url with
  | none =>
    if e.workspace.isDirectory url then .error (.isDirectory url) else .error (.noSuchFile url)
  | some f => return {
      url, isMember := scope.predicate.contains f
      displayName := scope.displayName, shape := scope.shape
      diagnostics := mergeDiagnostics [d.diagnostics, scope.diagnostics] }

/-- The text of the note that a url is not a file. -/
def missingMessage (ws : Workspace) (url : String) : String :=
  if ws.isDirectory url then "URL '" ++ url ++ "' points to a directory and was skipped."
  else "File URL '" ++ url ++ "' not found."

/-- Urls as far as they are sorted, and the notes on those that are not files. -/
structure Sorting where
  matched : List String := []
  excluded : List String := []
  missing : List String := []
  notes : Diagnostics := []

/-- Sorts one more url: by whether the scope contains its file, or as missing where there is
none. -/
def Sorting.add (ws : Workspace) (scope : Resolved) (sorted : Sorting) (url : String) : Sorting :=
  match ws.findFile? url with
  | none =>
    { sorted with
      missing := sorted.missing ++ [url], notes := sorted.notes ++ [missingMessage ws url] }
  | some f =>
    if scope.predicate.contains f then { sorted with matched := sorted.matched ++ [url] }
    else { sorted with excluded := sorted.excluded ++ [url] }

/-- Sorts urls by whether they are files of a descriptor's scope. -/
def filterFiles (e : Engine) (d : Descriptor) (urls : List String)
    (allowInteractive? : Option Bool) : Except EngineError FilterAnswer := do
  let scope ← e.resolve d allowInteractive? (some true)
  let sorted := urls.foldl (Sorting.add e.workspace scope) {}
  return {
    displayName := scope.displayName, shape := scope.shape
    matched := sorted.matched, excluded := sorted.excluded, missing := sorted.missing
    diagnostics := mergeDiagnostics [d.diagnostics, scope.diagnostics, sorted.notes] }

end Engine

end ScopeAlgebra
