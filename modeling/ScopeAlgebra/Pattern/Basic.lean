import ScopeAlgebra.File
import ScopeAlgebra.Pattern.Glob
import ScopeAlgebra.Pattern.Wildcard

/-!
# Patterns

A pattern is a boolean combination of terms `kind[module]:glob`. The kind selects files by content
root, the module wildcard by module, and the glob by path. `render` writes a pattern with the fewest
parentheses and `holds` gives its boolean meaning.
-/

namespace ScopeAlgebra

/-- The kinds of terms: `file` selects under every content root, the others under one. -/
inductive TermKind where
  | file
  | src
  | test
  | lib
  | scratch
  deriving DecidableEq, Repr, Inhabited

instance : Vocabulary TermKind where
  title := "TermKind"
  all := [.file, .src, .test, .lib, .scratch]
  word
    | .file => "file"
    | .src => "src"
    | .test => "test"
    | .lib => "lib"
    | .scratch => "scratch"
  find_word := by intro a; cases a <;> rfl

/-- The content root that a kind selects, if it selects one. -/
def TermKind.root? : TermKind → Option RootKind
  | .file => none
  | .src => some .source
  | .test => some .test
  | .lib => some .library
  | .scratch => some .scratch

/-- A term of a pattern. -/
structure Term where
  kind : TermKind
  module? : Option String
  glob : String
  deriving DecidableEq, Repr

namespace Term

/-- The text of a term. -/
def render (t : Term) : String :=
  match t.module? with
  | some module => word t.kind ++ "[" ++ module ++ "]:" ++ t.glob
  | none => word t.kind ++ ":" ++ t.glob

/-- Whether a file's content root is the one that the kind selects. -/
def admitsRoot (t : Term) (f : File) : Bool :=
  match t.kind.root? with
  | some root => f.root = root
  | none => true

/-- Whether a file's module matches the term's module, where the term names one. -/
def admitsModule (t : Term) (f : File) : Bool :=
  match t.module?, f.module? with
  | some wildcard, some module => Wildcard.isMatch wildcard module
  | some _, none => false
  | none, _ => true

/-- Whether a term selects a file. -/
def admits (t : Term) (f : File) : Bool :=
  t.admitsRoot f && t.admitsModule f && Glob.isMatch t.glob f.path

end Term

/-- A pattern as a tree. -/
inductive Pattern where
  | term (t : Term)
  | negation (operand : Pattern)
  | conjunction (operands : List Pattern)
  | disjunction (operands : List Pattern)
  deriving Repr, Inhabited

namespace Pattern

/-- Puts a text between parentheses. -/
def parenthesized (s : String) : String := "(" ++ s ++ ")"

/-- Whether a pattern needs parentheses under a negation. -/
def isCompound : Pattern → Bool
  | .conjunction _ | .disjunction _ => true
  | _ => false

/-- Whether a pattern needs parentheses as operand of a conjunction. -/
def isDisjunction : Pattern → Bool
  | .disjunction _ => true
  | _ => false

mutual

/-- The text of a pattern. -/
def render : Pattern → String
  | .term t => t.render
  | .negation operand =>
    "!" ++ (if operand.isCompound then parenthesized operand.render else operand.render)
  | .conjunction operands => " && ".intercalate (renderFactors operands)
  | .disjunction operands => " || ".intercalate (renderAll operands)

/-- The texts of the operands of a conjunction. -/
def renderFactors : List Pattern → List String
  | [] => []
  | p :: rest =>
    (if p.isDisjunction then parenthesized p.render else p.render) :: renderFactors rest

/-- The texts of the operands of a disjunction. -/
def renderAll : List Pattern → List String
  | [] => []
  | p :: rest => p.render :: renderAll rest

end

mutual

/-- The value of a pattern when `value` gives the value of each term. -/
def holds (value : Term → Bool) : Pattern → Bool
  | .term t => value t
  | .negation operand => !operand.holds value
  | .conjunction operands => allHold value operands
  | .disjunction operands => someHolds value operands

/-- Whether every operand holds. -/
def allHold (value : Term → Bool) : List Pattern → Bool
  | [] => true
  | p :: rest => p.holds value && allHold value rest

/-- Whether some operand holds. -/
def someHolds (value : Term → Bool) : List Pattern → Bool
  | [] => false
  | p :: rest => p.holds value || someHolds value rest

end

/-- Whether a pattern selects a file. -/
def selects (p : Pattern) (f : File) : Bool := p.holds fun t => t.admits f

/-- The negation of a pattern; two negations cancel. -/
def negate : Pattern → Pattern
  | .negation operand => operand
  | p => .negation p

/-- The operands that a pattern contributes to a surrounding conjunction. -/
def factors : Pattern → List Pattern
  | .conjunction operands => operands
  | p => [p]

/-- The operands that a pattern contributes to a surrounding disjunction. -/
def alternatives : Pattern → List Pattern
  | .disjunction operands => operands
  | p => [p]

/-- The conjunction of patterns: a single one stays as it is, nested conjunctions are joined. -/
def conjoin : List Pattern → Pattern
  | [p] => p
  | operands => .conjunction (operands.flatMap factors)

/-- The disjunction of patterns: a single one stays as it is, nested disjunctions are joined. -/
def disjoin : List Pattern → Pattern
  | [p] => p
  | operands => .disjunction (operands.flatMap alternatives)

end Pattern

end ScopeAlgebra
