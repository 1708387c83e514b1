import ScopeAlgebra.Text.Slice

/-!
# Decimal digits

The number that a list of decimal digits stands for, groups of digits with low lines between them,
and the decimal digits of all scripts.
-/

namespace ScopeAlgebra.Text

/-- The number that decimal digits stand for. -/
def natOfDigits (digits : List Char) : Nat :=
  digits.foldl (fun n c => 10 * n + (c.toNat - '0'.toNat)) 0

/-- Whether each low line has other characters on both sides. -/
def isGrouped (cs : List Char) : Bool := (parts (· = '_') cs).all fun group => !group.isEmpty

/-- Code points of zeros; the other nine digits of a script follow its zero. -/
def zeros : List Nat :=
  [48, 1632, 1776, 1984, 2406, 2534, 2662, 2790, 2918, 3046, 3174, 3302, 3430, 3558, 3664,
    3792, 3872, 4160, 4240, 6112, 6160, 6470, 6608, 6784, 6800, 6992, 7088, 7232, 7248, 42528,
    43216, 43264, 43472, 43504, 43600, 44016, 65296, 66720, 68912, 69734, 69872, 69942, 70096,
    70384, 70736, 70864, 71248, 71360, 71472, 71904, 72016, 72784, 73040, 73120, 92768, 92864,
    93008, 120782, 120792, 120802, 120812, 120822, 123200, 123632, 125264, 130032]

/-- The value of a decimal digit of any script. -/
def digitValue? (c : Char) : Option Nat :=
  (zeros.find? fun first => decide (first ≤ c.toNat ∧ c.toNat < first + 10)).map fun first =>
    c.toNat - first

/-- The number that decimal digits of any scripts stand for. -/
def natOfAnyDigits (digits : List Char) : Nat :=
  digits.foldl (fun n c => 10 * n + (digitValue? c).getD 0) 0

end ScopeAlgebra.Text
