import ScopeAlgebra.Atoms.Resolve
import ScopeAlgebra.Plan
import ScopeAlgebra.Program.Check

/-!
# Evaluating programs

Tokens are executed over a stack. A value on the stack is a predicate, or nothing where an atom was
skipped: an operation with one skipped operand gives the other one, and the negation of a skipped
operand stays skipped.
-/

namespace ScopeAlgebra.Program

/-- What evaluation depends on beside the program. -/
structure Context where
  catalog : Snapshot
  workspace : Workspace
  allowInteractive : Bool := false
  policy : Policy := .strict
  failureMode : FailureMode := .emptyScope

/-- A value on the stack; nothing where an atom was skipped. -/
abbrev Value := Option Predicate

/-- Atoms under the ids by which tokens name them. -/
abbrev AtomMap := List (String × Atom)

/-- The text of the note that an atom was replaced. -/
def replacedMessage (cause : Unresolved) (mode : String) : String :=
  cause.message ++ " Fallback mode=" ++ mode ++ "."

/-- The value that stands for an atom that does not resolve. -/
def substitute (cx : Context) (a : Atom) (cause : Unresolved) : Noted Value :=
  let mode := FailureMode.effective a.onFailure? cx.failureMode
  if cx.policy.aborts mode then .error (.unresolved a.id cause)
  else if mode = .skip then .withNote none (replacedMessage cause "SKIP")
  else .withNote (some .nothing) (replacedMessage cause "EMPTY_SCOPE")

/-- The value of an atom. -/
def valueOf (cx : Context) (a : Atom) : Noted Value :=
  match a.resolve cx.catalog cx.workspace cx.allowInteractive with
  | .ok predicate => .plain (some predicate)
  | .error (.unresolved cause) => substitute cx a cause
  | .error e => .error (.ofAtom a.id e)

/-- Joins two values; a skipped one gives way to the other. -/
def join (combine : Predicate → Predicate → Predicate) : Value → Value → Value
  | none, right => right
  | left, none => left
  | some left, some right => some (combine left right)

/-- The text of the note that a skipped operand stays skipped. -/
def skippedMessage (index : Nat) : String :=
  EngineError.tokenName index ++ " NOT operand skipped; result remains unresolved."

/-- The text of the note that an operand without a complement was replaced. -/
def emptiedMessage (index : Nat) (shape : Shape) : String :=
  EngineError.tokenName index ++ " NOT operand is " ++ shape.capitals ++
    ", not GLOBAL; replaced with empty scope."

/-- Negates a value at the token with the given index. -/
def negate (cx : Context) (index : Nat) : Value → Noted Value
  | none => .withNote none (skippedMessage index)
  | some operand =>
    if operand.shape = .global then
      -- Taking the complement asks for the shape once more.
      match operand.complement with
      | .ok p => .plain (some p)
      | .error shape => .error (.noComplement shape)
    else if cx.policy.aborts cx.failureMode then .error (.notGlobal index operand.shape)
    else .withNote (some .nothing) (emptiedMessage index operand.shape)

/-- The complement is taken of global operands only, so it is never refused. -/
theorem negate_some (cx : Context) (index : Nat) (operand : Predicate) :
    negate cx index (some operand) =
      if operand.shape = .global then .plain (some (.compl operand))
      else if cx.policy.aborts cx.failureMode then .error (.notGlobal index operand.shape)
      else .withNote (some .nothing) (emptiedMessage index operand.shape) := by
  rw [negate]
  split
  next hglobal => rw [Predicate.complement_of_global hglobal]
  · rfl

/-- The value of the atom that a push names. -/
def pushed (cx : Context) (atoms : AtomMap) (index : Nat) (t : Token) : Noted Value :=
  match t.atomId? with
  | none => .error (.pushWithoutAtom index)
  | some atomId =>
    match atoms.lookup atomId with
    | none => .error (.unknownAtom index atomId)
    | some a => valueOf cx a

/-- The stack after one token. -/
def step (cx : Context) (atoms : AtomMap) (index : Nat) (t : Token) (stack : List Value) :
    Noted (List Value) :=
  match t.op, stack with
  | .push, stack => (pushed cx atoms index t).onValue (· :: stack)
  -- The right operand was pushed last.
  | .and, right :: left :: rest => .plain (join .inter left right :: rest)
  | .or, right :: left :: rest => .plain (join .union left right :: rest)
  | .not, operand :: rest => (negate cx index operand).onValue (· :: rest)
  | op, stack => .error (.tooFewOperands index op stack.length)

/-- The stack after all tokens, with what was noted on the way. -/
def run (cx : Context) (atoms : AtomMap) (index : Nat) (stack : List Value) :
    List Token → Noted (List Value)
  | [] => .plain stack
  | t :: rest =>
    (step cx atoms index t stack).andThen fun stack => run cx atoms (index + 1) stack rest

/-- The scope that a final stack stands for. -/
def resultOf (notes : Diagnostics) : List Value → Except EngineError Resolved
  | [some predicate] => .ok ⟨predicate, predicate.displayName, predicate.shape, notes.eraseDups⟩
  | [none] => .error .emptyExpression
  | stack => .error (.notOneResult stack.length)

/-- Checks a program and executes it over the atoms of a map. -/
def execute (cx : Context) (tokens : List Token) (atoms : AtomMap) :
    Except EngineError Resolved := do
  check (atoms.map Prod.fst) tokens
  let (stack, notes) ← run cx atoms 0 [] tokens
  resultOf notes stack

/-- Evaluates a program over atoms with distinct ids. -/
def evaluate (cx : Context) (tokens : List Token) (atoms : List Atom) :
    Except EngineError Resolved := do
  checkDistinct atoms
  execute cx tokens (atoms.map fun a => (a.id, a))

end ScopeAlgebra.Program
