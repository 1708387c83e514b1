import ScopeAlgebra.Json.Basic
import ScopeAlgebra.Json.Binary

/-!
# Writing JSON

`Json.compact` writes a value on one line without blanks; `Json.pretty` indents nested values by two
blanks per level. Both escape control characters, quotation marks and backslashes; `pretty` writes
ASCII only.
-/

namespace ScopeAlgebra.Json

/-- The four hexadecimal digits of a code unit. -/
def unitDigits (unit : Nat) : List Char :=
  [12, 8, 4, 0].map fun shift => Nat.digitChar ((unit >>> shift) % 16)

/-- The escape of a character by its code units. -/
def unitEscape (c : Char) : List Char :=
  if c.toNat < 0x10000 then '\\' :: 'u' :: unitDigits c.toNat
  else
    let offset := c.toNat - 0x10000
    '\\' :: 'u' :: unitDigits (0xD800 + offset / 0x400) ++
      '\\' :: 'u' :: unitDigits (0xDC00 + offset % 0x400)

/-- One character of a string, in ASCII when `ascii` is set. -/
def writtenChar (ascii : Bool) (c : Char) : List Char :=
  match c with
  | '"' => ['\\', '"']
  | '\\' => ['\\', '\\']
  | '\n' => ['\\', 'n']
  | '\r' => ['\\', 'r']
  | '\t' => ['\\', 't']
  | '\x08' => ['\\', 'b']
  | '\x0c' => ['\\', 'f']
  | c => if c.toNat < 0x20 || (ascii && c.toNat > 0x7E) then unitEscape c else [c]

/-- A string between quotation marks. -/
def writtenString (ascii : Bool) (s : String) : String :=
  String.ofList ('"' :: s.toList.flatMap (writtenChar ascii) ++ ['"'])

/-- A decimal number; one beyond all binary numbers is written as infinity. -/
def writtenDecimal (mantissa exponent : Int) : String :=
  match nearest mantissa exponent with
  | .infinite => if mantissa < 0 then "-Infinity" else "Infinity"
  | _ => s!"{mantissa}e{exponent}"

/-- A value that is not an array or object. -/
def writtenScalar (ascii : Bool) : Json → String
  | .null => "null"
  | .bool b => if b then "true" else "false"
  | .int n => toString n
  | .decimal mantissa exponent => writtenDecimal mantissa exponent
  | .special (.number word) => word
  | .special (.date text) => writtenString ascii text
  | .special .illFormedText => writtenString ascii "\ufffd"
  | .string s => writtenString ascii s
  | .array _ => "[]"
  | .object _ => "\x7b\x7d"

mutual

/-- A value on one line. -/
def compact : Json → String
  | .array items => "[" ++ ",".intercalate (compactItems items) ++ "]"
  | .object fields => "\x7b" ++ ",".intercalate (compactFields fields) ++ "\x7d"
  | scalar => writtenScalar false scalar

/-- The items of an array, each on one line. -/
def compactItems : List Json → List String
  | [] => []
  | item :: rest => compact item :: compactItems rest

/-- The fields of an object, each on one line. -/
def compactFields : List (String × Json) → List String
  | [] => []
  | (name, item) :: rest => (writtenString false name ++ ":" ++ compact item) :: compactFields rest

end

/-- A line break and the indentation of a level. -/
def lineBreak (level : Nat) : String := String.ofList ('\n' :: List.replicate (2 * level) ' ')

/-- The parts of an array or object between brackets, one per line. -/
def bracketed (opening closing : String) (level : Nat) (parts : List String) : String :=
  if parts.isEmpty then opening ++ closing
  else
    opening ++ lineBreak (level + 1) ++ ("," ++ lineBreak (level + 1)).intercalate parts ++
      lineBreak level ++ closing

mutual

/-- A value at an indentation level. -/
def prettyAt (level : Nat) : Json → String
  | .array items => bracketed "[" "]" level (prettyItems (level + 1) items)
  | .object fields => bracketed "\x7b" "\x7d" level (prettyFields (level + 1) fields)
  | scalar => writtenScalar true scalar

/-- The items of an array at a level. -/
def prettyItems (level : Nat) : List Json → List String
  | [] => []
  | item :: rest => prettyAt level item :: prettyItems level rest

/-- The fields of an object at a level. -/
def prettyFields (level : Nat) : List (String × Json) → List String
  | [] => []
  | (name, item) :: rest =>
    (writtenString true name ++ ": " ++ prettyAt level item) :: prettyFields level rest

end

/-- A value over several lines. -/
def pretty (json : Json) : String := json.prettyAt 0

end ScopeAlgebra.Json
