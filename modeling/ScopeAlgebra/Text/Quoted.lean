import ScopeAlgebra.Text.Printable

/-!
# Quoted text

`quoted` writes a text between quotation marks so that it stays on one line: the marks are single
unless the text holds a single mark and no double one, and whatever is not printable is escaped by
its code.
-/

namespace ScopeAlgebra.Text

/-- The digits of `n` in base 16, at least `width` of them. -/
def hexDigits (width n : Nat) : List Char :=
  let digits := Nat.toDigits 16 n
  List.replicate (width - digits.length) '0' ++ digits

/-- The quotation mark for a text. -/
def quoteMark (cs : List Char) : Char :=
  if cs.contains '\'' && !cs.contains '"' then '"' else '\''

/-- The written form of one character between the marks `mark`. -/
def quotedChar (mark c : Char) : List Char :=
  if c = mark || c = '\\' then ['\\', c]
  else if c = '\t' then ['\\', 't']
  else if c = '\n' then ['\\', 'n']
  else if c = '\r' then ['\\', 'r']
  else if isPrintable c then [c]
  else if c.toNat ≤ 0xFF then '\\' :: 'x' :: hexDigits 2 c.toNat
  else if c.toNat ≤ 0xFFFF then '\\' :: 'u' :: hexDigits 4 c.toNat
  else '\\' :: 'U' :: hexDigits 8 c.toNat

/-- A text between quotation marks. -/
def quoted (s : String) : String :=
  let mark := quoteMark s.toList
  String.ofList (mark :: s.toList.flatMap (quotedChar mark) ++ [mark])

end ScopeAlgebra.Text
