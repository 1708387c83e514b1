import ScopeAlgebra.Json.Parser
import ScopeAlgebra.Text.Slice

/-!
# Meaning of scalars

A plain scalar stands for null, a truth value, a number or a date when it has the form of one, and
for its text otherwise. A tag may ask for one of these.
-/

namespace ScopeAlgebra.Yaml

/-- The words for null. -/
def nullWords : List String := ["", "~", "null", "Null", "NULL"]

/-- The words for true. -/
def trueWords : List String := ["true", "True", "TRUE"]

/-- The words for false. -/
def falseWords : List String := ["false", "False", "FALSE"]

/-- The words for infinity, behind a sign. -/
def infinityWords : List String := [".inf", ".Inf", ".INF"]

/-- The words for what is no number. -/
def notNumberWords : List String := [".nan", ".NaN", ".NAN"]

/-- The word for the fields of other mappings, as a key. -/
def mergeWord : String := "<<"

/-- The word that stands for nothing by itself but may be a key. -/
def valueWord : String := "="

/-! ## Numbers -/

/-- A number without its sign, and whether that is a minus. -/
def splitSign : List Char → Bool × List Char
  | '-' :: cs => (true, cs)
  | '+' :: cs => (false, cs)
  | cs => (false, cs)

/-- Characters without low lines. -/
def withoutLines (cs : List Char) : List Char := cs.filter (· ≠ '_')

/-- Whether a character is a digit to a base or a low line. -/
def isDigitOf (base : Nat) (c : Char) : Bool := c = '_' || (Json.hexValue? c).any (· < base)

/-- Whether all of some digits, of which there are any, belong to a base; low lines may stand
between them. -/
def areDigits (base : Nat) (cs : List Char) : Bool := !cs.isEmpty && cs.all (isDigitOf base)

/-- The number of digits to a base, of which there has to be one that is not a low line. -/
def natOf? (base : Nat) (cs : List Char) : Option Nat :=
  let digits := withoutLines cs
  if digits.isEmpty then none
  else if base = 10 then if Json.isWithinLimit digits then some (Text.natOfDigits digits) else none
  else some (digits.foldl (fun n c => base * n + (Json.hexValue? c).getD 0) 0)

/-- The base of an integer without its sign, and its digits; nothing when it does not have the form
of one. -/
def integerForm? (cs : List Char) : Option (Nat × List Char) :=
  match cs with
  | '0' :: 'b' :: digits => if areDigits 2 digits then some (2, digits) else none
  | '0' :: 'o' :: digits => if areDigits 8 digits then some (8, digits) else none
  | '0' :: 'x' :: digits => if areDigits 16 digits then some (16, digits) else none
  | digits => if areDigits 10 digits then some (10, digits) else none

/-- An exponent: its value, unless there is none; nothing when something else stands there. -/
def exponentForm? (needsSign : Bool) : List Char → Option (Option Int)
  | [] => some none
  | c :: cs =>
    let (isNegative, digits) := splitSign cs
    if (c = 'e' || c = 'E') && !digits.isEmpty && digits.all Char.isDigit &&
        (!needsSign || digits.length < cs.length) then
      let n : Int := Text.natOfDigits digits
      some (some (if isNegative then -n else n))
    else none

/-- The digits in front of a point and behind it and the exponent of a number without its sign;
nothing when it does not have the form of a number with a point or an exponent. -/
def decimalForm? (cs : List Char) : Option (List Char × List Char × Int) :=
  let (whole, rest) := cs.span (isDigitOf 10)
  match rest with
  | '.' :: rest =>
    let (fraction, rest) := rest.span (isDigitOf 10)
    if whole.head? = some '_' || (whole.isEmpty && fraction.isEmpty) then none
    else (exponentForm? whole.isEmpty rest).map fun exponent? => (whole, fraction, exponent?.getD 0)
  | rest =>
    if whole.isEmpty || whole.head? = some '_' then none
    else
      match exponentForm? false rest with
      | some (some exponent) => some (whole, [], exponent)
      | _ => none

/-- The number with the given digits in front of a point and behind it, under its sign. -/
def decimalOf? (isNegative : Bool) (whole fraction : List Char) (exponent : Int) : Option Json :=
  let fraction := withoutLines fraction
  let digits := withoutLines whole ++ fraction
  if digits.isEmpty then none
  else
    let mantissa : Int := Text.natOfDigits digits
    some (.decimal (if isNegative then -mantissa else mantissa) (exponent - fraction.length))

/-! ## Dates -/

/-- Splits off so many digits at least and so many at most; nothing when there are fewer. -/
def someDigits? (least most : Nat) (cs : List Char) : Option (List Char) :=
  let found := (cs.takeWhile Char.isDigit).take most
  if found.length < least then none else some (cs.drop found.length)

/-- What follows a character; nothing when another one stands there. -/
def behind? (c : Char) : List Char → Option (List Char)
  | d :: rest => if d = c then some rest else none
  | [] => none

/-- What follows digits with a character in front of them. -/
def digitsBehind (c : Char) (least most : Nat) (cs : List Char) : Option (List Char) :=
  (behind? c cs).bind (someDigits? least most)

/-- Whether characters are a time zone. -/
def isZone (cs : List Char) : Bool :=
  match cs.dropWhile (· = ' ') with
  | [] => cs.isEmpty
  | ['Z'] => true
  | c :: rest =>
    (c = '-' || c = '+') &&
      (someDigits? 1 2 rest).any fun rest => rest.isEmpty || digitsBehind ':' 2 2 rest = some []

/-- Whether characters are a time of day with its zone. -/
def isTime (cs : List Char) : Bool :=
  let time? := do
    let rest ← someDigits? 1 2 cs
    let rest ← digitsBehind ':' 2 2 rest
    digitsBehind ':' 2 2 rest
  time?.any fun rest =>
    isZone (match rest with | '.' :: rest => rest.dropWhile Char.isDigit | rest => rest)

/-- Whether characters are a date, which may have a time of day. -/
def isDate (cs : List Char) : Bool :=
  let short? := do
    let rest ← someDigits? 4 4 cs
    let rest ← digitsBehind '-' 2 2 rest
    digitsBehind '-' 2 2 rest
  let long? := do
    let rest ← someDigits? 4 4 cs
    let rest ← digitsBehind '-' 1 2 rest
    digitsBehind '-' 1 2 rest
  short? = some [] ||
    long?.any fun rest =>
      match rest with
      | 'T' :: rest | 't' :: rest => isTime rest
      | ' ' :: rest => isTime (rest.dropWhile (· = ' '))
      | _ => false

/-! ## Scalars -/

/-- The number that a text with the form of an integer stands for. -/
def integerOf? (text : String) : Option Json := do
  let (isNegative, cs) := splitSign text.toList
  let (base, digits) ← integerForm? cs
  let n : Int := ← natOf? base digits
  return .int (if isNegative then -n else n)

/-- What a plain scalar stands for; nothing when that is nothing by itself. -/
def plainValue? (text : String) : Option Json :=
  let (isNegative, cs) := splitSign text.toList
  if nullWords.contains text then some .null
  else if trueWords.contains text then some (.bool true)
  else if falseWords.contains text then some (.bool false)
  else if text = mergeWord || text = valueWord then none
  else if infinityWords.contains (String.ofList cs) || notNumberWords.contains text then
    some (.special (.number text))
  else if text.toList.head? = some '_' then some (.string text)
  else
    match decimalForm? cs with
    | some (whole, fraction, exponent) => decimalOf? isNegative whole fraction exponent
    | none =>
      if (integerForm? cs).isSome then integerOf? text
      else if isDate text.toList then some (.special (.date text))
      else some (.string text)

/-- The start of the tags that have a meaning. -/
def tagHead : String := "tag:yaml.org,2002:"

/-- What a scalar with a tag stands for; nothing when it cannot. -/
def taggedValue? (tag : String) (text : Option String) : Option Json :=
  match text with
  | none => if tag = tagHead ++ "str" then some (.special .illFormedText) else none
  | some text =>
    if tag = tagHead ++ "str" then some (.string text)
    else if tag = tagHead ++ "null" then some .null
    else if tag = tagHead ++ "int" then integerOf? text
    else if tag = tagHead ++ "float" then
      match plainValue? text with
      | some (.int n) => some (.decimal n 0)
      | some (.decimal mantissa exponent) => some (.decimal mantissa exponent)
      | some (.special (.number word)) => some (.special (.number word))
      | _ => none
    else if tag = tagHead ++ "bool" then
      let folded := text.map Char.toLower
      if ["true", "yes", "on"].contains folded then some (.bool true)
      else if ["false", "no", "off"].contains folded then some (.bool false)
      else none
    else if tag = tagHead ++ "timestamp" && isDate text.toList then some (.special (.date text))
    else none

end ScopeAlgebra.Yaml
