import ScopeAlgebra.Json.Basic

/-!
# Checked reading

Reading a structured value reports every problem in it, not only the first: a checked value is a
value or the problems found, in order. Each problem carries the path of field names and indexes that
leads to it.
-/

namespace ScopeAlgebra

/-- How the value comes in, which decides the wording for lists and models: as text of the wire
format, or as the data of a document. -/
inductive Intake where
  | wire
  | document
  deriving DecidableEq, Repr

/-- What is wrong with a value. -/
inductive ProblemCause where
  | missing
  | notText
  | illFormedText
  | tooShort
  | notOneOf (words : List String)
  | notList (intake : Intake)
  | notModel (intake : Intake) (name : String)
  | notMapping
  | notBoolean
  | unreadableBoolean
  | notInteger
  | fractional
  | unreadableInteger
  | oversizedInteger
  | notFinite
  deriving DecidableEq, Repr

/-- Words in quotation marks, with commas and a final "or" between them. -/
def alternativesText : List String → String
  | [] => ""
  | [w] => "'" ++ w ++ "'"
  | [v, w] => "'" ++ v ++ "' or '" ++ w ++ "'"
  | w :: rest => "'" ++ w ++ "', " ++ alternativesText rest

/-- The wording of a cause. -/
def ProblemCause.message : ProblemCause → String
  | .missing => "Field required"
  | .notText => "Input should be a valid string"
  | .illFormedText => "Input should be a valid string, unable to parse raw data as a unicode string"
  | .tooShort => "String should have at least 1 character"
  | .notOneOf words => "Input should be " ++ alternativesText words
  | .notList .wire => "Input should be a valid array"
  | .notList .document => "Input should be a valid list"
  | .notModel .wire _ => "Input should be an object"
  | .notModel .document name => "Input should be a valid dictionary or instance of " ++ name
  | .notMapping => "Input should be a valid dictionary"
  | .notBoolean => "Input should be a valid boolean"
  | .unreadableBoolean => "Input should be a valid boolean, unable to interpret input"
  | .notInteger => "Input should be a valid integer"
  | .fractional => "Input should be a valid integer, got a number with a fractional part"
  | .unreadableInteger =>
    "Input should be a valid integer, unable to parse string as an integer"
  | .oversizedInteger => "Unable to parse input string as an integer, exceeded maximum size"
  | .notFinite => "Input should be a finite number"

/-- A problem and the steps that lead to it, outermost first. -/
structure Problem where
  path : List String
  cause : ProblemCause
  deriving DecidableEq, Repr

/-- The text of a problem: where it is and what it is. -/
def Problem.message (p : Problem) : String :=
  (if p.path.isEmpty then "manifest" else ".".intercalate p.path) ++ ": " ++ p.cause.message

/-- The text of several problems. -/
def problemsMessage (problems : List Problem) : String :=
  "; ".intercalate (problems.map Problem.message)

/-- A value, or every problem that was found on reading it. -/
abbrev Checked (α : Type) := Except (List Problem) α

/-- Reads a value from JSON. -/
abbrev Reader (α : Type) := Json → Checked α

namespace Checked

/-- A value without problems. -/
abbrev ok {α : Type} (x : α) : Checked α := Except.ok x

/-- A single problem at the value itself. -/
def fail {α : Type} (cause : ProblemCause) : Checked α := .error [⟨[], cause⟩]

/-- Applies a checked function; the problems of both sides are kept, in order. -/
def ap {α β : Type} (f : Checked (α → β)) (x : Checked α) : Checked β :=
  match f, x with
  | .ok f, .ok x => .ok (f x)
  | .ok _, .error problems => .error problems
  | .error problems, .ok _ => .error problems
  | .error problems, .error more => .error (problems ++ more)

/-- Moves the problems of a value one step further in. -/
def inside {α : Type} (step : String) (x : Checked α) : Checked α :=
  x.mapError fun problems => problems.map fun p => { p with path := step :: p.path }

/-- Applies a checking function to every item, which stands at its index. -/
def eachFrom {α β : Type} (read : α → Checked β) (index : Nat) : List α → Checked (List β)
  | [] => .ok []
  | item :: rest =>
    ap (ap (.ok List.cons) (inside (toString index) (read item))) (eachFrom read (index + 1) rest)

@[simp] theorem ap_ok_ok {α β : Type} (f : α → β) (x : α) : ap (.ok f) (.ok x) = .ok (f x) := rfl

@[simp] theorem inside_ok {α : Type} (step : String) (x : α) : inside step (.ok x) = .ok x := rfl

end Checked

end ScopeAlgebra
