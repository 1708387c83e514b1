/-!
# Command lines

A command declares its options; the words of a command line are options with their values, in any
order, and operands. After `--` every word is an operand. A long option takes its value from the
next word or behind an equals sign, a short one from the rest of its word or from the next.
-/

namespace ScopeAlgebra.Cli

/-- What an option stands for. -/
inductive OptionKey where
  | verbose
  | workspace
  | json
  | interactive
  | notInteractive
  | limit
  | includeInteractive
  | strict
  | lenient
  deriving DecidableEq, Repr

/-- The declaration of an option. -/
structure OptionSpec where
  key : OptionKey
  long : String
  short? : Option Char := none
  takesValue : Bool := false

/-- An option as it was given, with its value. -/
abbrev Given := OptionKey × Option String

/-- The words of a command line, sorted. -/
structure Words where
  options : List Given := []
  operands : List String := []
  deriving DecidableEq, Repr

namespace Words

/-- Puts an option in front. -/
def addOption (given : Given) (ws : Words) : Words := { ws with options := given :: ws.options }

/-- Puts an operand in front. -/
def addOperand (word : String) (ws : Words) : Words := { ws with operands := word :: ws.operands }

/-- The options that were given, last one first, of which `pick` makes something. -/
def last? {α : Type} (ws : Words) (pick : Given → Option α) : Option α :=
  ws.options.reverse.findSome? pick

end Words

/-- What one word of a command line is. -/
inductive WordKind where
  | endOfOptions
  | operand
  /-- Options that are complete, and one that still needs a value, if there is one. -/
  | options (given : List OptionKey) (value? : Option String) (open? : Option OptionKey)
  | unknown
  deriving DecidableEq, Repr

/-- Reads a long option, given without its leading dashes. -/
def longOption (specs : List OptionSpec) (body : List Char) : WordKind :=
  let name := String.ofList (body.takeWhile (· ≠ '='))
  match specs.find? (fun spec => decide (spec.long = name)), body.dropWhile (· ≠ '=') with
  | none, _ => .unknown
  | some spec, [] =>
    if spec.takesValue then .options [] none (some spec.key) else .options [spec.key] none none
  | some spec, _ :: value =>
    if spec.takesValue then .options [spec.key] (some (String.ofList value)) none else .unknown

/-- Reads short options that share one dash. -/
def shortOptions (specs : List OptionSpec) : List Char → WordKind
  | [] => .options [] none none
  | c :: rest =>
    match specs.find? fun spec => decide (spec.short? = some c) with
    | none => .unknown
    | some spec =>
      if spec.takesValue then
        if rest.isEmpty then .options [] none (some spec.key)
        else .options [spec.key] (some (String.ofList rest)) none
      else
        match shortOptions specs rest with
        | .options given value? open? => .options (spec.key :: given) value? open?
        | other => other

/-- What a word is. -/
def kindOf (specs : List OptionSpec) (word : String) : WordKind :=
  match word.toList with
  | ['-', '-'] => .endOfOptions
  | '-' :: '-' :: body => longOption specs body
  | '-' :: c :: body => shortOptions specs (c :: body)
  | _ => .operand

/-- Options of one word; a value belongs to the last of them. -/
def givenOf (keys : List OptionKey) (value? : Option String) : List Given :=
  keys.zipIdx.map fun (key, i) => (key, if i + 1 = keys.length then value? else none)

/-- Sorts the words of a command line; with `mixed` not set, the first operand ends the options. -/
def sortWords (specs : List OptionSpec) (mixed : Bool) : List String → Option Words
  | [] => some {}
  | w :: rest =>
    match kindOf specs w with
    | .endOfOptions => some ⟨[], rest⟩
    | .operand =>
      if mixed then (sortWords specs mixed rest).map (·.addOperand w) else some ⟨[], w :: rest⟩
    | .unknown => none
    | .options given value? none =>
      (sortWords specs mixed rest).map fun ws => (givenOf given value?).foldr Words.addOption ws
    | .options given _ (some key) =>
      match rest with
      | [] => none
      | value :: rest =>
        (sortWords specs mixed rest).map fun ws =>
          (givenOf given none).foldr Words.addOption (ws.addOption (key, some value))

end ScopeAlgebra.Cli
