import ScopeAlgebra.Cli.Command
import ScopeAlgebra.Cli.Files
import ScopeAlgebra.Console.Block
import ScopeAlgebra.Wire.Answer
import ScopeAlgebra.Wire.Manifest
import ScopeAlgebra.Wire.Program

/-!
# Running commands

A command sees its files by their paths and leaves an outcome behind. The settings and the manifest
are read first, then the file that the command works on.
-/

namespace ScopeAlgebra.Cli

/-- Why a command gives up: for a reason that it reports, or since it cannot read what it has to. -/
inductive Refusal where
  | reported (message : String)
  | unreadable
  deriving DecidableEq, Repr

/-- A result, or why there is none. -/
abbrev Attempt (α : Type) := Except Refusal α

/-- The content of an entry, if there is one; what is there has to be a file. -/
def contentOf? : Option Entry → Attempt (Option String)
  | none => .ok none
  | some (.file content) => .ok (some content)
  | some .unreadable => .error .unreadable

/-- The engine for a manifest; one that is not there is an empty workspace unless it is required. -/
def loadEngine (files : Files) (manifest : String) (required : Bool) : Attempt Engine := do
  let settings := (Settings.ofFile ((files Settings.path).bind Entry.content?)).settings
  let path := plainPath manifest
  match ← contentOf? (files path), required with
  | none, false => return { settings }
  | content?, _ =>
    match Workspace.ofManifestFile path content? with
    | .ok workspace => return { workspace, settings }
    | .error e => .error (.reported e.message)

/-- Reads the file of a model. -/
def loadModel {α : Type} (files : Files) (file name : String) (read : Reader α) : Attempt α := do
  let path := plainPath file
  match ← contentOf? (files path) with
  | none => .error (.reported ("File not found: " ++ path))
  | some content =>
    match (Json.parseMessage? content).map read with
    | some (.ok a) => return a
    | _ => .error (.reported (path ++ " is not a valid " ++ name))

/-- Reads the file of a request. -/
def loadRequest (files : Files) (file : String) : Attempt Request :=
  loadModel files file "ResolveRequest" Request.ofJson

/-- Reads the file of a descriptor. -/
def loadDescriptor (files : Files) (file : String) : Attempt Descriptor :=
  loadModel files file "ProgramDescriptor" Descriptor.ofJson

/-- The result of the engine, or its error as the reason to give up. -/
def attempt {α : Type} (x : Except EngineError α) : Attempt α :=
  x.mapError fun e => .reported e.message

/-! ## Output -/

/-- A text in a style. -/
def styled (style text : String) : String := "[" ++ style ++ "]" ++ text ++ "[/" ++ style ++ "]"

/-- The blocks of diagnostics. -/
def diagnosticBlocks (diagnostics : Diagnostics) : List Block :=
  diagnostics.map fun message => .text (styled "yellow" "!" ++ " " ++ Markup.escape message)

/-- The style in which a shape is shown. -/
def shapeStyle : Shape → String
  | .global => "green"
  | .snapshot => "yellow"
  | .mixed => "magenta"

/-- A shape in its style. -/
def shapeLabel (shape : Shape) : String := styled (shapeStyle shape) (word shape)

/-- The flags of an item. -/
def flagsOf (item : Item) : String :=
  ", ".intercalate ((if item.requiresInput then ["interactive"] else []) ++
    if item.unstable then ["unstable"] else [])

/-- The table of items. -/
def itemsTable (title : String) (items : List Item) : Block :=
  .table title ["Reference", "Display name", "Kind", "Shape", "Flags"] <|
    items.map fun item =>
      [item.refId, Markup.escape item.displayName, word item.kind,
        shapeLabel item.shape, flagsOf item]

/-- The line that names a scope. -/
def scopeLine (displayName : String) (shape : Shape) : Block :=
  .text ("Scope: " ++ styled "bold" (Markup.escape displayName) ++ " (" ++ shapeLabel shape ++ ")")

/-- The blocks of a listing. -/
def listingBlocks (l : Listing) : List Block :=
  (if l.items.isEmpty then [.text (styled "dim" "No catalog items found")]
    else
      [itemsTable "Scope Catalog" l.items,
        .text ("\n" ++ styled "dim" ("Total: " ++ toString l.items.length ++ " item(s)"))]) ++
    diagnosticBlocks l.diagnostics

/-- The blocks of a listing for an intent. -/
def intentBlocks (l : IntentListing) : List Block :=
  (if l.items.isEmpty then [] else [itemsTable ("Intent: " ++ word l.intent) l.items]) ++
    (l.recommended?.filter (!·.isEmpty)).toList.map
      (fun refId => .text ("\nRecommended: " ++ styled "bold cyan" refId)) ++
    diagnosticBlocks l.diagnostics

/-- The blocks of a pattern's verdict. -/
def verdictBlocks (v : PatternVerdict) : List Block :=
  match v.canonical? with
  | some canonical =>
    [.text (styled "green" "✓" ++ " Valid pattern: " ++ styled "bold" (Markup.escape canonical))]
  | none => diagnosticBlocks v.diagnostics

/-- The blocks of a compiled descriptor. -/
def descriptorBlocks (d : Descriptor) : List Block :=
  [scopeLine d.displayName d.shape,
    .text (styled "dim"
      (toString d.atoms.length ++ " atom(s), " ++ toString d.tokens.length ++ " token(s)"))] ++
    diagnosticBlocks d.diagnostics

/-- The module or library of a file, as it is shown. -/
def ownerOf (f : File) : String := (preferText f.module? f.library?).getD ""

/-- The blocks of a resolved scope and its files. -/
def resolvedBlocks (scope : Resolved) (files : List File) (diagnostics : Diagnostics) :
    List Block :=
  [scopeLine scope.displayName scope.shape,
    if files.isEmpty then .text (styled "dim" "No files in scope")
    else
      .table "Files in scope" ["Path", "Module", "Root"]
        (files.map fun f => [f.path, ownerOf f, word f.root])] ++
    diagnosticBlocks diagnostics

/-- The JSON of a resolved scope and its files. -/
def resolvedJson (scope : Resolved) (files : List File) (diagnostics : Diagnostics) : Json :=
  .object [
  ("display_name", .string scope.displayName),
  ("shape", .ofMember scope.shape),
  ("file_urls", .strings (files.map (·.url))),
  ("diagnostics", .strings diagnostics)]

/-- The blocks of an answer on one file. -/
def fileBlocks (a : FileAnswer) : List Block :=
  let name := styled "bold" (Markup.escape a.displayName)
  .text (if a.isMember then styled "green" "✓" ++ " " ++ a.url ++ " is in " ++ name
    else styled "red" "✗" ++ " " ++ a.url ++ " is not in " ++ name) ::
    diagnosticBlocks a.diagnostics

/-- The blocks of an answer on many files. -/
def filterBlocks (a : FilterAnswer) : List Block :=
  let rows (urls : List String) (label : String) := urls.map fun url => [url, label]
  .table ("Filter: " ++ Markup.escape a.displayName) ["File URL", "Result"]
    (rows a.matched (styled "green" "matched") ++ rows a.excluded (styled "dim" "excluded") ++
      rows a.missing (styled "red" "missing")) ::
    diagnosticBlocks a.diagnostics

/-! ## Actions -/

/-- An outcome as JSON or as blocks. -/
def answer (json : Bool) (exitCode : Nat) (document : Json) (blocks : List Block) : Outcome :=
  if json then .document exitCode document else .ofBlocks exitCode blocks

/-- The message that a word is no intent. -/
def invalidIntentMessage (name : String) : String :=
  "Invalid intent '" ++ name ++ "'. Valid intents: " ++
    ", ".intercalate (((Vocabulary.all : List Intent).map word).mergeSort fun a b => decide (a ≤ b))

/-- Lists the catalog. -/
def runCatalog (files : Files) (c : Command) (allow? : Option Bool) : Attempt Outcome := do
  let e ← loadEngine files c.manifest true
  let l ← attempt (e.list allow?)
  return answer c.json 0 l.toJson (listingBlocks l)

/-- Searches the catalog for an intent. -/
def runIntent (files : Files) (c : Command) (name : String) (limit : Int)
    (includeInteractive : Bool) : Attempt Outcome :=
  match (Vocabulary.ofWord? name : Option Intent) with
  | none => .error (.reported (invalidIntentMessage name))
  | some intent => do
    let e ← loadEngine files c.manifest true
    let l ← attempt (e.findByIntent intent limit (some includeInteractive))
    return answer c.json 0 l.toJson (intentBlocks l)

/-- Checks the text of a pattern; one that cannot be read gives exit code 1. -/
def runValidatePattern (files : Files) (c : Command) (text : String) : Attempt Outcome := do
  let _ ← loadEngine files c.manifest false
  let v := PatternVerdict.ofText text
  return answer c.json (if v.isValid then 0 else 1) v.toJson (verdictBlocks v)

/-- Compiles a request. -/
def runCompile (files : Files) (c : Command) (file : String) (strict? : Option Bool) :
    Attempt Outcome := do
  let e ← loadEngine files c.manifest true
  let r ← loadRequest files file
  let d ← attempt (e.compile r strict?)
  return answer c.json 0 d.toJson (descriptorBlocks d)

/-- Compiles a stored descriptor again. -/
def runNormalize (files : Files) (c : Command) (file : String) (allow? : Option Bool) :
    Attempt Outcome := do
  let e ← loadEngine files c.manifest true
  let d ← loadDescriptor files file
  let again ← attempt (e.recompile d allow?)
  return .document 0 again.toJson

/-- Resolves a descriptor and lists its files. -/
def runResolve (files : Files) (c : Command) (file : String) (allow? : Option Bool) :
    Attempt Outcome := do
  let e ← loadEngine files c.manifest true
  let d ← loadDescriptor files file
  let scope ← attempt (e.resolve d allow? (some true))
  let plan := SearchPlan.ofResolved scope Workspace.everything
  let found := plan.select e.workspace.files
  let diagnostics := scope.diagnostics ++ plan.diagnostics
  return answer c.json 0 (resolvedJson scope found diagnostics)
    (resolvedBlocks scope found diagnostics)

/-- Asks whether a file belongs to a descriptor's scope. -/
def runContains (files : Files) (c : Command) (file url : String) (allow? : Option Bool) :
    Attempt Outcome := do
  let e ← loadEngine files c.manifest true
  let d ← loadDescriptor files file
  let a ← attempt (e.containsFile d url allow?)
  return answer c.json 0 a.toJson (fileBlocks a)

/-- Sorts urls by whether they belong to a descriptor's scope. -/
def runFilter (files : Files) (c : Command) (file : String) (urls : List String)
    (allow? : Option Bool) : Attempt Outcome := do
  let e ← loadEngine files c.manifest true
  let d ← loadDescriptor files file
  let a ← attempt (e.filterFiles d urls allow?)
  return answer c.json 0 a.toJson (filterBlocks a)

/-- The paths of all files that a command may read. -/
def Command.paths (c : Command) : List String :=
  Settings.path :: c.files.map plainPath

/-- Runs a command. -/
def runCommand (files : Files) (c : Command) : Attempt Outcome :=
  match c.action with
  | .catalog allow? => runCatalog files c allow?
  | .intent name limit includeInteractive => runIntent files c name limit includeInteractive
  | .validatePattern text => runValidatePattern files c text
  | .compile file strict? => runCompile files c file strict?
  | .normalize file allow? => runNormalize files c file allow?
  | .resolve file allow? => runResolve files c file allow?
  | .contains file url allow? => runContains files c file url allow?
  | .filter file urls allow? => runFilter files c file urls allow?

/-- The outcome of a command over the given files. -/
def outcomeOf (files : Files) (c : Command) : Outcome :=
  match runCommand files c with
  | .ok outcome => outcome
  | .error (.reported message) => .failure message
  | .error .unreadable => .silentFailure

/-- The outcome of a command line over the given files. -/
def run (files : Files) (arguments : List String) : Outcome :=
  match Command.ofArguments? arguments with
  | some c => outcomeOf files c
  | none => .misuse

end ScopeAlgebra.Cli
