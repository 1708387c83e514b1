import ScopeAlgebra.Schema.Checked
import ScopeAlgebra.Text.Slice
import ScopeAlgebra.Workspace.Basic

/-!
# Manifests

A manifest describes a workspace: files and libraries by paths relative to a root url, modules,
named scopes and the state of the editor. `urlFor` turns a path into a url and leaves full urls
alone.
-/

namespace ScopeAlgebra

/-- A file of a manifest. -/
structure FileEntry where
  path : String
  module? : Option String := none
  root : RootKind := .source
  library? : Option String := none
  deriving DecidableEq, Repr

/-- The description of a workspace. -/
structure Manifest where
  root : String := "file:///workspace"
  modules : List Module := []
  files : List FileEntry := []
  libraries : List (String × List String) := []
  holders : List Holder := []
  openFiles : List String := []
  recentFiles : List String := []
  changedFiles : List String := []
  currentFile? : Option String := none
  deriving DecidableEq, Repr

namespace Manifest

/-- The root that stands in for one that is left out or empty. -/
def defaultRoot : String := "file:///workspace"

/-- Whether a text is a full url: it holds `://` somewhere. -/
def isFullUrl (s : String) : Bool := Text.occursIn [':', '/', '/'] s.toList

/-- The url of a path below a root; a full url stands for itself. -/
def urlBelow (root path : String) : String :=
  if isFullUrl path then path else Text.stripRight '/' root ++ "/" ++ Text.stripLeft '/' path

/-- The url that a path of the manifest stands for. -/
def urlFor (m : Manifest) (path : String) : String := urlBelow m.root path

/-- The file that an entry stands for. -/
def fileOf (m : Manifest) (e : FileEntry) : File :=
  ⟨m.urlFor e.path, Text.stripLeft '/' e.path, e.module?, e.root, e.library?⟩

/-- The files of a library. -/
def libraryFiles (m : Manifest) (name : String) (paths : List String) : List File :=
  paths.map fun path => m.fileOf ⟨path, none, .library, some name⟩

/-- All files of a manifest: its own, then those of each library. -/
def allFiles (m : Manifest) : List File :=
  m.files.map m.fileOf ++ m.libraries.flatMap fun (name, paths) => m.libraryFiles name paths

/-- The url of the current file; an empty path stands for none. -/
def currentUrl? (m : Manifest) : Option String :=
  m.currentFile?.bind fun path => if path.isEmpty then none else some (m.urlFor path)

/-- The workspace that a manifest describes. -/
def toWorkspace (m : Manifest) : Except WorkspaceError Workspace :=
  match Workspace.ofFiles m.allFiles m.modules m.holders with
  | .error e => .error e
  | .ok ws => .ok { ws with
      openFiles := m.openFiles.map m.urlFor
      recentFiles := m.recentFiles.map m.urlFor
      changedFiles := m.changedFiles.map m.urlFor
      currentFile? := m.currentUrl? }

end Manifest

/-- Why a manifest gives no workspace. -/
inductive ManifestError where
  | invalid (problems : List Problem)
  | conflicting (e : WorkspaceError)
  deriving DecidableEq, Repr

/-- The text of a manifest error. -/
def ManifestError.message : ManifestError → String
  | .invalid problems => "Invalid workspace manifest: " ++ problemsMessage problems
  | .conflicting e => e.message

/-- Why the file of a manifest gives no workspace. -/
inductive ManifestFileError where
  | notFound (path : String)
  | unreadable (path : String)
  | invalid (path : String) (problems : List Problem)
  | conflicting (e : WorkspaceError)
  deriving DecidableEq, Repr

/-- The text of an error with a manifest's file. -/
def ManifestFileError.message : ManifestFileError → String
  | .notFound path => "Workspace manifest not found: " ++ path
  | .unreadable path => "Workspace manifest " ++ path ++ " is not valid YAML"
  | .invalid path problems => path ++ ": " ++ (ManifestError.invalid problems).message
  | .conflicting e => e.message

end ScopeAlgebra
