import ScopeAlgebra.Json.Basic
import ScopeAlgebra.Text.Digits

/-!
# Reading JSON

`Json.parse?` reads a text that holds one JSON value, and `Json.parseMessage?` a message, in which
values may not be nested too deep. Every reader returns what it read and the rest of the text;
recursion is bounded by the length of the text.
-/

namespace ScopeAlgebra.Json

/-- Skips the white space between tokens. -/
def skipSpace (cs : List Char) : List Char :=
  cs.dropWhile fun c => c = ' ' || c = '\n' || c = '\t' || c = '\r'

/-- The value of a hexadecimal digit. -/
def hexValue? (c : Char) : Option Nat :=
  if c.isDigit then some (c.toNat - '0'.toNat)
  else if 'a' ≤ c && c ≤ 'f' then some (c.toNat - 'a'.toNat + 10)
  else if 'A' ≤ c && c ≤ 'F' then some (c.toNat - 'A'.toNat + 10)
  else none

/-- The code unit that four hexadecimal digits stand for. -/
def codeUnit? (a b c d : Char) : Option Nat := do
  return (((← hexValue? a) * 16 + (← hexValue? b)) * 16 + (← hexValue? c)) * 16 + (← hexValue? d)

/-- The character that a letter stands for after a backslash. -/
def escaped? : Char → Option Char
  | '"' => some '"'
  | '\\' => some '\\'
  | '/' => some '/'
  | 'b' => some '\x08'
  | 'f' => some '\x0c'
  | 'n' => some '\n'
  | 'r' => some '\r'
  | 't' => some '\t'
  | _ => none

/-- Whether a code unit is the first half of a surrogate pair. -/
def isHighSurrogate (unit : Nat) : Bool := 0xD800 ≤ unit && unit < 0xDC00

/-- The character of a code unit that stands alone; half a surrogate pair has none. -/
def charOfUnit? (unit : Nat) : Option Char :=
  if 0xD800 ≤ unit && unit < 0xE000 then none else some (Char.ofNat unit)

/-- Reads the characters of a string up to the closing mark. -/
def stringBody : List Char → Option (List Char × List Char)
  | [] => none
  | '"' :: rest => some ([], rest)
  | '\\' :: 'u' :: a :: b :: c :: d :: '\\' :: 'u' :: a' :: b' :: c' :: d' :: rest => do
    let first ← codeUnit? a b c d
    let second ← codeUnit? a' b' c' d'
    if isHighSurrogate first && 0xDC00 ≤ second && second < 0xE000 then
      let (body, rest) ← stringBody rest
      return (Char.ofNat (0x10000 + (first - 0xD800) * 0x400 + (second - 0xDC00)) :: body, rest)
    else
      let char ← charOfUnit? first
      let (body, rest) ← stringBody ('\\' :: 'u' :: a' :: b' :: c' :: d' :: rest)
      return (char :: body, rest)
  | '\\' :: 'u' :: a :: b :: c :: d :: rest => do
    let char ← charOfUnit? (← codeUnit? a b c d)
    let (body, rest) ← stringBody rest
    return (char :: body, rest)
  | '\\' :: c :: rest => do
    let char ← escaped? c
    let (body, rest) ← stringBody rest
    return (char :: body, rest)
  | c :: rest => do
    if c.toNat < 0x20 then none
    let (body, rest) ← stringBody rest
    return (c :: body, rest)

/-- Splits off the leading decimal digits. -/
def digits (cs : List Char) : List Char × List Char :=
  (cs.takeWhile Char.isDigit, cs.dropWhile Char.isDigit)

/-- Reads an optional fraction: its digits and whether there is one. -/
def fraction : List Char → Option (Option (List Char) × List Char)
  | '.' :: rest =>
    let (found, rest) := digits rest
    if found.isEmpty then none else some (some found, rest)
  | rest => some (none, rest)

/-- Reads the digits of an exponent under its sign. -/
def exponentDigits (negative : Bool) (cs : List Char) : Option (Option Int × List Char) :=
  let (found, rest) := digits cs
  if found.isEmpty then none
  else
    let n : Int := Text.natOfDigits found
    some (some (if negative then -n else n), rest)

/-- Reads an optional exponent. -/
def exponent : List Char → Option (Option Int × List Char)
  | c :: rest =>
    if c = 'e' || c = 'E' then
      match rest with
      | '-' :: rest => exponentDigits true rest
      | '+' :: rest => exponentDigits false rest
      | rest => exponentDigits false rest
    else some (none, c :: rest)
  | [] => some (none, [])

/-- The largest number of digits of an integer. -/
def integerLimit : Nat := 4300

/-- Whether the digits of an integer are not too many. -/
def isWithinLimit (digits : List Char) : Bool := digits.length ≤ integerLimit

/-- Reads a number without its sign. -/
def unsignedNumber (negative : Bool) (cs : List Char) : Option (Json × List Char) := do
  let (whole, rest) := digits cs
  if whole.isEmpty || (whole.head? = some '0' && whole.length > 1) then none
  if !isWithinLimit whole then none
  let (fraction?, rest) ← fraction rest
  let (exponent?, rest) ← exponent rest
  let mantissa : Int := Text.natOfDigits (whole ++ fraction?.getD [])
  let signed := if negative then -mantissa else mantissa
  match fraction?, exponent? with
  | none, none => return (.int signed, rest)
  | _, _ => return (.decimal signed (exponent?.getD 0 - (fraction?.getD []).length), rest)

/-- Reads a number. -/
def number : List Char → Option (Json × List Char)
  | '-' :: rest => unsignedNumber true rest
  | cs => unsignedNumber false cs

/-- The words and the values that they stand for. -/
def words : List (String × Json) :=
  [("null", .null), ("true", .bool true), ("false", .bool false)] ++
    ["NaN", "Infinity", "-Infinity"].map fun word => (word, .special (.number word))

/-- Reads a word. -/
def word? (cs : List Char) : Option (Json × List Char) :=
  words.findSome? fun (word, json) =>
    if word.toList.isPrefixOf cs then some (json, cs.drop word.length) else none

mutual

/-- Reads a value in at most `steps` nested steps. Arrays and objects with something in them stand
inside each other at most `levels` deep. -/
def value (levels : Nat) : Nat → List Char → Option (Json × List Char)
  | 0, _ => none
  | steps + 1, cs =>
    match skipSpace cs with
    | '"' :: rest => do
      let (body, rest) ← stringBody rest
      return (.string (String.ofList body), rest)
    | '[' :: rest =>
      match skipSpace rest, levels with
      | ']' :: rest, _ => some (.array [], rest)
      | _, 0 => none
      | rest, levels + 1 => do
        let (items, rest) ← items levels steps rest
        return (.array items, rest)
    | '\x7b' :: rest =>
      match skipSpace rest, levels with
      | '\x7d' :: rest, _ => some (.object [], rest)
      | _, 0 => none
      | rest, levels + 1 => do
        let (fields, rest) ← fields levels steps [] rest
        return (.object fields, rest)
    | rest => (word? rest).or (number rest)

/-- Reads the items of an array up to its closing bracket. -/
def items (levels : Nat) : Nat → List Char → Option (List Json × List Char)
  | 0, _ => none
  | steps + 1, cs => do
    let (first, rest) ← value levels steps cs
    match skipSpace rest with
    | ',' :: rest =>
      let (more, rest) ← items levels steps rest
      return (first :: more, rest)
    | ']' :: rest => return ([first], rest)
    | _ => none

/-- Reads the fields of an object up to its closing bracket, behind those read before. -/
def fields (levels : Nat) : Nat → Fields → List Char → Option (Fields × List Char)
  | 0, _, _ => none
  | steps + 1, before, cs =>
    match skipSpace cs with
    | '"' :: rest => do
      let (name, rest) ← stringBody rest
      let name := String.ofList name
      match skipSpace rest with
      | ':' :: rest =>
        let (first, rest) ← value levels steps rest
        let before := Fields.put before name first
        match skipSpace rest with
        | ',' :: rest => fields levels steps before rest
        | '\x7d' :: rest => return (before, rest)
        | _ => none
      | _ => none
    | _ => none

end

/-- The JSON value that a text holds, with values nested at most `levels` deep. -/
def parseWithin? (levels : Nat) (text : String) : Option Json := do
  let cs := text.toList
  let (found, rest) ← value levels (cs.length + 1) cs
  if (skipSpace rest).isEmpty then some found else none

/-- The JSON value that a text holds; the last of several fields of one name counts. -/
def parse? (text : String) : Option Json := parseWithin? text.length text

/-- How deep the values of a message may be nested. -/
def nestingLimit : Nat := 200

/-- The value of a message; the last of several fields of one name counts. -/
def parseMessage? (text : String) : Option Json := parseWithin? nestingLimit text

end ScopeAlgebra.Json
