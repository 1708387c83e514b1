/-!
# Nearest binary number

A decimal number with a fraction or an exponent is read as the nearest binary floating-point number
with 53 significant bits, a tie going to the even neighbour. `nearest` is that number when it is
whole, and otherwise says whether it has a fraction or is beyond all numbers.
-/

namespace ScopeAlgebra.Json

/-- The quotient rounded to the nearest natural number, a tie to the even one. -/
def roundQuotient (num den : Nat) : Nat :=
  let quotient := num / den
  let twice := 2 * (num % den)
  if twice < den then quotient
  else if twice > den then quotient + 1
  else quotient + quotient % 2

/-- The magnitude `num / den`, `den` positive, rounded to 53 bits, as mantissa and binary
exponent. -/
def roundBits (num den : Nat) : Nat × Int :=
  let estimate : Int := (num.log2 : Int) - den.log2 - 52
  let scaled (exponent : Int) : Nat × Nat :=
    if exponent < 0 then (num <<< exponent.natAbs, den) else (num, den <<< exponent.toNat)
  let fits (exponent : Int) : Bool := Nat.pow 2 52 * (scaled exponent).2 ≤ (scaled exponent).1
  let exponent := max (if fits estimate then estimate else estimate - 1) (-1074)
  (roundQuotient (scaled exponent).1 (scaled exponent).2, exponent)

/-- What the nearest binary number to a decimal number is. -/
inductive Nearest where
  | whole (n : Int)
  | fractional
  | infinite
  deriving DecidableEq, Repr

/-- The first magnitude beyond all binary numbers. -/
def overflow : Nat := Nat.pow 2 1024

/-- The nearest binary number to a positive magnitude `num / den`, under its sign. -/
def nearestQuotient (negative : Bool) (num den : Nat) : Nearest :=
  let (bits, binary) := roundBits num den
  let signed (whole : Nat) : Nearest :=
    if overflow ≤ whole then .infinite else .whole (if negative then -(whole : Int) else whole)
  if 0 ≤ binary then signed (bits <<< binary.toNat)
  else if bits % Nat.pow 2 binary.natAbs = 0 then signed (bits >>> binary.natAbs)
  else .fractional

/-- The nearest binary number to `mantissa * 10 ^ exponent`. Exponents far beyond the range of
binary numbers are not worked out: they give infinity or zero. -/
def nearest (mantissa exponent : Int) : Nearest :=
  let magnitude := mantissa.natAbs
  let size : Int := (Nat.toDigits 10 magnitude).length + exponent
  if magnitude = 0 then .whole 0
  else if size > 400 then .infinite
  else if size < -400 then .whole 0
  else
    nearestQuotient (mantissa < 0) (magnitude * Nat.pow 10 exponent.toNat)
      (Nat.pow 10 (-exponent).toNat)

end ScopeAlgebra.Json
