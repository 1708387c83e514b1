import ScopeAlgebra.Cli.Options
import ScopeAlgebra.Schema.Integer

/-!
# Commands

The commands of the program with their operands and options, and how they are read from a command
line. What cannot be read is a misuse.
-/

namespace ScopeAlgebra.Cli

/-- What a command is to do. -/
inductive Action where
  | catalog (allowInteractive? : Option Bool)
  | intent (name : String) (limit : Int) (includeInteractive : Bool)
  | validatePattern (text : String)
  | compile (requestFile : String) (strict? : Option Bool)
  | normalize (descriptorFile : String) (allowInteractive? : Option Bool)
  | resolve (descriptorFile : String) (allowInteractive? : Option Bool)
  | contains (descriptorFile url : String) (allowInteractive? : Option Bool)
  | filter (descriptorFile : String) (urls : List String) (allowInteractive? : Option Bool)
  deriving DecidableEq, Repr

/-- A command: what to do, with which manifest, and how to answer. -/
structure Command where
  action : Action
  manifest : String
  json : Bool
  deriving DecidableEq, Repr

/-- The manifest that is read when none is given. -/
def defaultManifest : String := "scopekit.yaml"

/-- The options of the program itself. -/
def globalOptions : List OptionSpec := [⟨.verbose, "verbose", some 'v', false⟩]

/-- The option for the manifest. -/
def workspaceOption : OptionSpec := ⟨.workspace, "workspace", some 'w', true⟩

/-- The option for output as JSON. -/
def jsonOption : OptionSpec := ⟨.json, "json", none, false⟩

/-- The options that allow or forbid scopes that need input. -/
def interactiveOptions : List OptionSpec :=
  [⟨.interactive, "allow-interactive", none, false⟩,
    ⟨.notInteractive, "no-interactive", none, false⟩]

/-- The options that choose the policy. -/
def policyOptions : List OptionSpec :=
  [⟨.strict, "strict", none, false⟩, ⟨.lenient, "lenient", none, false⟩]

/-- The options of an intent search. -/
def intentOptions : List OptionSpec :=
  [⟨.limit, "max-results", some 'n', true⟩,
    ⟨.includeInteractive, "include-interactive", none, false⟩]

/-- The options of a command beside the manifest; nothing for a word that is no command. -/
def optionsOf? : String → Option (List OptionSpec)
  | "catalog" => some (jsonOption :: interactiveOptions)
  | "intent" => some (jsonOption :: intentOptions)
  | "validate-pattern" => some [jsonOption]
  | "compile" => some (jsonOption :: policyOptions)
  | "normalize" => some interactiveOptions
  | "resolve" | "contains" | "filter" => some (jsonOption :: interactiveOptions)
  | _ => none

namespace Words

/-- Whether an option was given. -/
def has (ws : Words) (key : OptionKey) : Bool := ws.options.any fun given => decide (given.1 = key)

/-- The last value of an option. -/
def value? (ws : Words) (key : OptionKey) : Option String :=
  ws.last? fun given => if given.1 = key then given.2 else none

/-- The last word between an option for yes and one for no. -/
def choice? (ws : Words) (yes no : OptionKey) : Option Bool :=
  ws.last? fun given =>
    if given.1 = yes then some true else if given.1 = no then some false else none

/-- Whether scopes that need input are allowed or forbidden. -/
def interactive? (ws : Words) : Option Bool := ws.choice? .interactive .notInteractive

/-- The limit of an intent search. -/
def limit? (ws : Words) : Option Int :=
  match ws.value? .limit with
  | some value => (Schema.integerOfText value).toOption
  | none => some 20

end Words

/-- What a command with the given name and words is to do. -/
def actionOf? (name : String) (ws : Words) : Option Action :=
  match name, ws.operands with
  | "catalog", [] => some (.catalog ws.interactive?)
  | "intent", [intent] =>
    ws.limit?.map fun limit => .intent intent limit (ws.has .includeInteractive)
  | "validate-pattern", [text] => some (.validatePattern text)
  | "compile", [file] => some (.compile file (ws.choice? .strict .lenient))
  | "normalize", [file] => some (.normalize file ws.interactive?)
  | "resolve", [file] => some (.resolve file ws.interactive?)
  | "contains", [file, url] => some (.contains file url ws.interactive?)
  | "filter", file :: url :: urls => some (.filter file (url :: urls) ws.interactive?)
  | _, _ => none

/-- The file that an action works on. -/
def Action.file? : Action → Option String
  | .compile file _ | .normalize file _ | .resolve file _ | .contains file _ _ | .filter file _ _ =>
    some file
  | _ => none

/-- The files that a command names. -/
def Command.files (c : Command) : List String := c.manifest :: c.action.file?.toList

/-- Whether a word can be the path of a file: it may not hold the null character. -/
def isPath (word : String) : Bool := !word.toList.contains '\x00'

/-- Reads a command from its name and the words behind it. -/
def Command.ofWords? (name : String) (words : List String) : Option Command := do
  let options ← optionsOf? name
  let ws ← sortWords (workspaceOption :: options) true words
  let action ← actionOf? name ws
  let command : Command := ⟨action, (ws.value? .workspace).getD defaultManifest, ws.has .json⟩
  if command.files.all isPath then some command else none

/-- Reads a command from a whole command line. -/
def Command.ofArguments? (arguments : List String) : Option Command := do
  let outer ← sortWords globalOptions false arguments
  match outer.operands with
  | "scope" :: rest =>
    let group ← sortWords [] false rest
    match group.operands with
    | name :: words => ofWords? name words
    | [] => none
  | _ => none

end ScopeAlgebra.Cli
