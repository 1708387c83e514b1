/-!
# Faults of styles

Why the text of a style or of a colour cannot be read.
-/

namespace ScopeAlgebra

/-- What is wrong with the text of a style: it means nothing, which is no harm, or it breaks off
where a number is needed, which ends the output. -/
inductive Fault where
  | unknown
  | malformed
  deriving DecidableEq, Repr

end ScopeAlgebra
