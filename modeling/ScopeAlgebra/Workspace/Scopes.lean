import ScopeAlgebra.Pattern.Parser
import ScopeAlgebra.Standard
import ScopeAlgebra.Text.Slice
import ScopeAlgebra.Workspace.Basic

/-!
# Scopes of a workspace

The predicates that a workspace offers: its standard scopes, patterns, directories and sets of
files.
-/

namespace ScopeAlgebra.Workspace

/-- The predicate that accepts every file. -/
def everything : Predicate := .filter StandardScope.allPlaces.displayName fun _ => true

/-- The predicate of a standard scope, when it is available. -/
def standardScope? (ws : Workspace) (scope : StandardScope) : Option Predicate :=
  let name := scope.displayName
  match scope with
  | .allPlaces => some everything
  | .projectAndLibraries => some (.filter name fun f => f.root ≠ .scratch)
  | .projectFiles => some (.filter name fun f => f.root.isProject)
  | .productionFiles => some (.filter name fun f => f.root = .source)
  | .testFiles => some (.filter name fun f => f.root = .test)
  | .libraries => some (.filter name fun f => f.root = .library)
  | .scratches => some (.filter name fun f => f.root = .scratch)
  | .openFiles => some (.ofUrls name ws.openFiles)
  | .recentlyViewed => some (.ofUrls name ws.recentFiles)
  | .recentlyChanged => some (.ofUrls name ws.changedFiles)
  | .currentFile => ws.currentFile?.map fun url => .snapshot name [url]

/-- The available standard scopes, followed by the extra presets. -/
def predefinedScopes (ws : Workspace) : List Predicate :=
  (Vocabulary.all : List StandardScope).filterMap ws.standardScope? ++ ws.extraPresets

/-- The predicate of a pattern's text, shown under the given name or else under the canonical
text. -/
def patternScope (text : String) (name? : Option String) : Except PatternError Predicate := do
  let p ← Pattern.parse text
  let name := match name? with
    | some name => if name.isEmpty then p.render else name
    | none => p.render
  return .filter name p.selects

/-- A directory's url with a single slash at its end. -/
def directoryHead (url : String) : String := Text.stripRight '/' url ++ "/"

/-- Whether some file lies in the directory with the given url. -/
def isDirectory (ws : Workspace) (url : String) : Bool :=
  ws.files.any fun f => Text.hasHead (directoryHead url) f.url

/-- Whether a file lies in a directory, or directly in it when `recursive` is not set. -/
def liesIn (head : String) (recursive : Bool) (f : File) : Bool :=
  Text.hasHead head f.url && (recursive || !(Text.afterHead head f.url).contains '/')

/-- The predicate of the files in a directory. -/
def directoryScope (ws : Workspace) (url : String) (recursive : Bool) :
    Except WorkspaceError Predicate :=
  if (ws.findFile? url).isSome then .error (.notDirectory url)
  else if !ws.isDirectory url then .error (.unknownDirectory url)
  else
    let label := if recursive then "Directory" else "Directory (non-recursive)"
    .ok (.filter (label ++ " '" ++ url ++ "'") (liesIn (directoryHead url) recursive))

/-- The name under which a set of files is shown: the path of a single file, or the number of
urls. -/
def filesScopeName (ws : Workspace) (urls : List String) : String :=
  match urls with
  | [url] =>
    match ws.findFile? url with
    | some f => "File '" ++ f.path ++ "'"
    | none => "File '" ++ url ++ "'"
  | urls => toString urls.length ++ " selected files"

/-- The predicate of the files with the given urls, all of which have to be in the workspace. -/
def filesScope (ws : Workspace) (urls : List String) : Except WorkspaceError Predicate :=
  match urls.find? fun url => (ws.findFile? url).isNone with
  | some url => .error (.unknownFile url)
  | none => .ok (.ofUrls (ws.filesScopeName urls) urls)

end ScopeAlgebra.Workspace
