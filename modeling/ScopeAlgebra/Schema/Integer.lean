import ScopeAlgebra.Json.Parser
import ScopeAlgebra.Schema.Checked
import ScopeAlgebra.Text.Blank

/-!
# Integers as texts

A text stands for an integer when it is one in plain form: a minus sign or none, and digits of which
the first is zero only when it is alone. Any other text is brought into plain form first, if it can
be: a plus sign, leading zeros, a point with zeros behind it and single low lines between digits do
not count. White space around an integer does not count either.
-/

namespace ScopeAlgebra.Schema

/-- Whether a character is dropped around an integer: white space other than the information
separators. -/
def isMargin (c : Char) : Bool := Text.isBlank c && !(0x1C ≤ c.toNat && c.toNat ≤ 0x1F)

/-- A text without its margins. -/
def trimMargins (cs : List Char) : List Char :=
  ((cs.dropWhile isMargin).reverse.dropWhile isMargin).reverse

/-! ## Plain form -/

/-- Whether there is a minus sign, and what stands behind it. -/
def splitMinus : List Char → Bool × List Char
  | '-' :: cs => (true, cs)
  | cs => (false, cs)

/-- Whether digits start with one that counts, or are a single zero. -/
def isPlain (cs : List Char) : Bool :=
  cs.all Char.isDigit && !cs.isEmpty && (cs.head? ≠ some '0' || cs.length = 1)

/-- The integer of a text in plain form. -/
def plainInteger? (cs : List Char) : Option Int :=
  let (negative, digits) := splitMinus cs
  if isPlain digits && Json.isWithinLimit digits then
    let n : Int := Text.natOfDigits digits
    some (if negative then -n else n)
  else none

/-- Whether a text starts with more digits in plain form than an integer may have. -/
def isOversized (cs : List Char) : Bool :=
  let digits := (splitMinus cs).2.takeWhile Char.isDigit
  isPlain digits && !Json.isWithinLimit digits

/-! ## Other forms -/

/-- The text from the first digit that counts on, given the zero or low line read last. A minus sign
ends the zeros as well, and in front of a point one of them stays. -/
def afterZeros? (last : Char) : List Char → Option (List Char)
  | [] => some [last]
  | c :: rest =>
    if c = '0' || c = '_' then afterZeros? c rest
    else if c = '.' then some (last :: c :: rest)
    else if c.isDigit || c = '-' then some (c :: rest)
    else none

/-- A text without leading zeros. -/
def withoutZeros? : List Char → Option (List Char)
  | [] => none
  | c :: rest =>
    if c = '0' then afterZeros? c rest
    else if c.isDigit || c = '-' then some (c :: rest)
    else none

/-- A text without a point that only zeros follow. -/
def withoutFraction (cs : List Char) : List Char :=
  match cs.dropWhile (· ≠ '.') with
  | _ :: '0' :: zeros => if zeros.all (· = '0') then cs.takeWhile (· ≠ '.') else cs
  | _ => cs

/-- A text without the low lines between its groups. -/
def withoutGroups (cs : List Char) : List Char :=
  if Text.isGrouped cs then cs.filter (· ≠ '_') else cs

/-- The plain form of an integer, which may have a sign. -/
def plainForm? : List Char → Option (List Char)
  | '+' :: '-' :: _ => none
  | '+' :: cs => (withoutZeros? cs).map fun cs => withoutGroups (withoutFraction cs)
  | '-' :: cs => (withoutZeros? cs).map fun cs => '-' :: withoutGroups (withoutFraction cs)
  | cs => (withoutZeros? cs).map fun cs => withoutGroups (withoutFraction cs)

/-- The integer that a text stands for. A text that starts with too many digits, without a margin in
front of them, is refused for its size. -/
def integerOfText (text : String) : Checked Int :=
  let cs := trimMargins text.toList
  if isOversized text.toList then .fail .oversizedInteger
  else
    match (plainInteger? cs).or ((plainForm? cs).bind plainInteger?) with
    | some n => .ok n
    | none => .fail .unreadableInteger

end ScopeAlgebra.Schema
