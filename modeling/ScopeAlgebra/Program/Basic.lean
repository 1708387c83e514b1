import ScopeAlgebra.Atom
import ScopeAlgebra.Diagnostics
import ScopeAlgebra.Shape

/-!
# Programs, requests and descriptors

A program is a list of tokens in postfix order over the atoms of a request. Compiling a request
gives a descriptor, which can be stored and resolved again.
-/

namespace ScopeAlgebra

/-- The operations of a program. -/
inductive ProgramOp where
  | push
  | and
  | or
  | not
  deriving DecidableEq, Repr, Inhabited

instance : Vocabulary ProgramOp where
  title := "ProgramOp"
  all := [.push, .and, .or, .not]
  word
    | .push => "push_atom"
    | .and => "and"
    | .or => "or"
    | .not => "not"
  find_word := by intro a; cases a <;> rfl

namespace ProgramOp

/-- The word of an operation in capitals. -/
def capitals : ProgramOp → String
  | .push => "PUSH_ATOM"
  | .and => "AND"
  | .or => "OR"
  | .not => "NOT"

/-- The number of operands that an operation takes from the stack. -/
def arity : ProgramOp → Nat
  | .push => 0
  | .and | .or => 2
  | .not => 1

end ProgramOp

/-- One instruction. -/
structure Token where
  op : ProgramOp
  atomId? : Option String := none
  deriving DecidableEq, Repr, Inhabited

/-- The instruction that pushes an atom. -/
def Token.ofAtom (atomId : String) : Token := ⟨.push, some atomId⟩

/-- A program to compile; what is left out falls back to the settings. -/
structure Request where
  atoms : List Atom := []
  tokens : List Token := []
  strict? : Option Bool := none
  allowInteractive? : Option Bool := none
  failureMode? : Option FailureMode := none
  deriving DecidableEq, Repr, Inhabited

/-- A compiled program. -/
structure Descriptor where
  version : Int := 2
  atoms : List Atom := []
  tokens : List Token := []
  displayName : String := ""
  shape : Shape := .global
  diagnostics : Diagnostics := []
  deriving DecidableEq, Repr, Inhabited

/-- Whether descriptors of a version are understood. -/
def Descriptor.supports (version : Int) : Bool := version = 1 || version = 2

end ScopeAlgebra
