/-!
# Character classes given by ranges

A class of characters is a list of closed ranges of code points. The property tables of this folder
are all of this form.
-/

namespace ScopeAlgebra.Text

/-- A class of characters: closed ranges of code points. -/
abbrev Ranges := List (Nat × Nat)

/-- Whether one of the ranges holds the character. -/
def Ranges.contains (table : Ranges) (c : Char) : Bool :=
  table.any fun range => range.1 ≤ c.toNat && c.toNat ≤ range.2

end ScopeAlgebra.Text
