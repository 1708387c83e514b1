import ScopeAlgebra.Pattern.Basic

/-!
# Faults in patterns

What can be wrong with the text of a pattern, and where it was found.
-/

namespace ScopeAlgebra

/-- What is wrong with a pattern's text. -/
inductive PatternFault where
  | blank
  | unexpectedEnd
  | unexpected (c : Char)
  | unclosedParenthesis
  | expectedTerm (found : Char)
  | unknownKind (kind : String)
  | unclosedBracket
  | blankModule
  | expectedColon (read : String)
  | expectedGlob
  deriving DecidableEq, Repr

/-- The wording of a fault. -/
def PatternFault.message : PatternFault → String
  | .blank => "empty pattern"
  | .unexpectedEnd => "unexpected end of pattern"
  | .unexpected c => "unexpected '" ++ String.singleton c ++ "'"
  | .unclosedParenthesis => "unclosed '('"
  | .expectedTerm c => "expected a term, found '" ++ String.singleton c ++ "'"
  | .unknownKind kind =>
    "unknown term kind '" ++ kind ++ "' (expected one of " ++
      ", ".intercalate ((Vocabulary.all : List TermKind).map word) ++ ")"
  | .unclosedBracket => "unclosed '['"
  | .blankModule => "empty module name"
  | .expectedColon read => "expected ':' after '" ++ read ++ "'"
  | .expectedGlob => "expected a path glob"

/-- A pattern's text that cannot be read: the fault and its column, counted from one. -/
structure PatternError where
  fault : PatternFault
  column : Nat
  deriving DecidableEq, Repr

/-- The text of a pattern error. -/
def PatternError.message (e : PatternError) : String :=
  "Invalid scope pattern: " ++ e.fault.message ++ " at column " ++ toString e.column ++ "."

end ScopeAlgebra
