import ScopeAlgebra.Manifest
import ScopeAlgebra.Schema.Field
import ScopeAlgebra.Yaml.Document

/-!
# Manifests as documents

A manifest is read from the data of a document. Modules and files may be given by a bare text, lists
that are null are empty, and an empty root stands for the default one.
-/

namespace ScopeAlgebra

open Schema

namespace Manifest

/-- Reads null as the empty list. -/
def listOrNull {α : Type} (read : Reader α) : Reader (List α)
  | .null => .ok []
  | json => listOf .document read json

/-- Reads a list of texts, null standing for the empty one. -/
def texts : Reader (List String) := listOrNull text

/-- Reads an entry that may be given by the text of one of its fields. -/
def bareOr {α : Type} (name : String) (read : Reader α) : Reader α
  | .string s => read (.object [(name, .string s)])
  | .special .illFormedText => read (.object [(name, .special .illFormedText)])
  | json => read json

/-- Reads a module. -/
def readModuleEntry : Reader Module := model .document "ModuleEntry" fun fields =>
  Checked.ok Module.mk
    |>.ap (required fields "name" nonEmptyText)
    |>.ap (optional fields "dependencies" [] texts)
    |>.ap (optional fields "libraries" [] texts)

/-- Reads a file. -/
def readFileEntry : Reader FileEntry := model .document "FileEntry" fun fields =>
  Checked.ok FileEntry.mk
    |>.ap (required fields "path" nonEmptyText)
    |>.ap (optional fields "module" none (nullable text))
    |>.ap (optional fields "root" .source (member RootKind))
    |>.ap (optional fields "library" none (nullable text))

/-- Reads a named scope. -/
def readScopeEntry : Reader NamedScope := model .document "NamedScopeEntry" fun fields =>
  Checked.ok NamedScope.mk
    |>.ap (required fields "name" nonEmptyText)
    |>.ap (optional fields "pattern" none (nullable text))
    |>.ap (optional fields "presentable_name" none (nullable text))

/-- Reads a holder of named scopes. -/
def readHolderEntry : Reader Holder := model .document "HolderEntry" fun fields =>
  Checked.ok Holder.mk
    |>.ap (required fields "holder" nonEmptyText)
    |>.ap (optional fields "scopes" [] (listOrNull readScopeEntry))

/-- Reads the paths of each library. -/
def readLibraryEntries : Json.Fields → Checked (List (String × List String))
  | [] => .ok []
  | (name, json) :: rest =>
    Checked.ok (fun paths more => (name, paths) :: more)
      |>.ap (Checked.inside name (listOf .document text json))
      |>.ap (readLibraryEntries rest)

/-- Reads the libraries in the order of the document; null stands for none. -/
def readLibraries : Reader (List (String × List String))
  | .null => .ok []
  | .object fields => readLibraryEntries fields
  | _ => .fail .notMapping

/-- Reads the root; an empty value stands for the default. -/
def readRoot : Reader String := fun json => if json.isEmpty then .ok defaultRoot else text json

/-- Reads a manifest from the fields of an object. -/
def ofFields (fields : Json.Fields) : Checked Manifest :=
  Checked.ok Manifest.mk
    |>.ap (optional fields "root" defaultRoot readRoot)
    |>.ap (optional fields "modules" [] (listOrNull (bareOr "name" readModuleEntry)))
    |>.ap (optional fields "files" [] (listOrNull (bareOr "path" readFileEntry)))
    |>.ap (optional fields "libraries" [] readLibraries)
    |>.ap (optional fields "named_scopes" [] (listOrNull readHolderEntry))
    |>.ap (optional fields "open_files" [] texts)
    |>.ap (optional fields "recent_files" [] texts)
    |>.ap (optional fields "changed_files" [] texts)
    |>.ap (optional fields "current_file" none (nullable text))

/-- Reads a manifest. -/
def ofJson : Reader Manifest := model .document "WorkspaceManifest" ofFields

end Manifest

namespace Workspace

/-- The workspace that the data of a manifest describes. -/
def ofManifest (json : Json) : Except ManifestError Workspace :=
  match Manifest.ofJson json with
  | .error problems => .error (.invalid problems)
  | .ok manifest =>
    match manifest.toWorkspace with
    | .error e => .error (.conflicting e)
    | .ok ws => .ok ws

/-- The workspace that the file of a manifest describes; empty data stands for an empty manifest. -/
def ofManifestFile (path : String) (content? : Option String) :
    Except ManifestFileError Workspace :=
  match content? with
  | none => .error (.notFound path)
  | some content =>
    match Yaml.parse? content with
    | none => .error (.unreadable path)
    | some json =>
      match ofManifest (if json.isEmpty then .object [] else json) with
      | .ok ws => .ok ws
      | .error (.invalid problems) => .error (.invalid path problems)
      | .error (.conflicting e) => .error (.conflicting e)

end Workspace

end ScopeAlgebra
