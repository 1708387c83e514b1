import ScopeAlgebra.Error

/-!
# Checking programs

A program is well formed when every push names an atom, every operation finds its operands on the
stack, and one value is left at the end. The check follows the height of the stack and blames the
first token that is at fault.
-/

namespace ScopeAlgebra.Program

/-- The height of the stack after a token, from its height before. -/
def heightAfter (atomIds : List String) (index : Nat) (t : Token) (height : Nat) :
    Except EngineError Nat :=
  match t.op with
  | .push =>
    match t.atomId? with
    | none => .error (.pushWithoutAtom index)
    | some atomId =>
      if atomId.isEmpty then .error (.pushWithoutAtom index)
      else if atomId ∈ atomIds then .ok (height + 1)
      else .error (.unknownAtom index atomId)
  | op =>
    if height < op.arity then .error (.tooFewOperands index op height)
    else .ok (height - (op.arity - 1))

/-- The height of the stack after all tokens. -/
def finalHeight (atomIds : List String) (index height : Nat) : List Token → Except EngineError Nat
  | [] => .ok height
  | t :: rest => do
    let height ← heightAfter atomIds index t height
    finalHeight atomIds (index + 1) height rest

/-- Checks that a program over the given atoms is well formed. -/
def check (atomIds : List String) (tokens : List Token) : Except EngineError Unit :=
  if tokens.isEmpty then .error .emptyProgram
  else do
    let height ← finalHeight atomIds 0 0 tokens
    if height = 1 then .ok () else .error (.notOneResult height)

end ScopeAlgebra.Program
