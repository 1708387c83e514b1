import ScopeAlgebra.Console.Cells
import ScopeAlgebra.Console.Marked
import ScopeAlgebra.Text.Digits
import ScopeAlgebra.Text.Letter
import ScopeAlgebra.Text.Numeral
import ScopeAlgebra.Text.Regex

/-!
# Highlighting

What looks like a number, a path, an address, a quoted text or the like is highlighted on the
console: it becomes a span of its own. Of such spans only the ends matter here, between which a line
is measured run by run.
-/

namespace ScopeAlgebra.Highlight

open Text (Regex)
open Text.Regex

/-- Whether a character belongs to a word: a letter, a numeral or a low line. -/
def isWordChar (c : Char) : Bool :=
  c.isAlphanum || c = '_' || (0x80 ≤ c.toNat && (Text.isLetter c || Text.isNumeral c))

/-- Whether a character is a hexadecimal digit. -/
def isHexDigit (c : Char) : Bool := c.isDigit || ('a' ≤ c && c ≤ 'f') || ('A' ≤ c && c ≤ 'F')

/-- A character of a word or one of the given ones. -/
def wordOr (cs : String) : Regex :=
  let others := cs.toList
  .char fun c => isWordChar c || others.contains c

/-- A digit of ASCII. -/
def digit : Regex := .char Char.isDigit

/-- A digit of any script. -/
def anyDigit : Regex := .char fun c => (Text.digitValue? c).isSome

/-- A hexadecimal digit. -/
def hexDigit : Regex := .char isHexDigit

/-! ## What is highlighted -/

/-- An element of markup with its brackets, its name and its content. -/
def element : Regex :=
  chain [.group (literal "<"), .group (many (wordOr "-.:|")), .group (many (.char fun _ => true)),
    .group (literal ">")]

/-- A name with an equals sign and a value. -/
def assignment : Regex :=
  chain [.group (between 1 50 (wordOr "")), literal "=",
    maybe (.group (chain [maybe (literal "\""), many1 (wordOr ""), maybe (literal "\"")]))]

/-- A bracket. -/
def bracket : Regex := .group (oneOf "][\x7b\x7d()")

/-- Four numbers between points. -/
def dottedAddress : Regex :=
  let part := between 1 3 digit
  .group (chain [part, literal ".", part, literal ".", part, literal ".", part])

/-- Hexadecimal numbers between colons. -/
def colonAddress : Regex :=
  let part := between 1 4 hexDigit
  .group (.seq (between 1 7 (chain [part, literal ":", maybe (literal ":")])) part)

/-- Pairs of hexadecimal digits between signs, or groups of four between points. -/
def hardwareAddress (pairs fours : Nat) : Regex :=
  let pair := between 1 2 hexDigit
  let four := exactly 4 hexDigit
  .group (choice [.seq (exactly pairs (.seq pair (literal "-"))) pair,
    .seq (exactly pairs (.seq pair (literal ":"))) pair,
    .seq (exactly fours (.seq four (literal "."))) four])

/-- A universal identifier. -/
def identifier : Regex :=
  let four := .seq (exactly 4 hexDigit) (literal "-")
  .group (chain [exactly 8 hexDigit, literal "-", four, four, four, exactly 12 hexDigit])

/-- A name in front of a bracket. -/
def call : Regex := .seq (.group (.times false 0 none (wordOr "."))) (literal "(")

/-- A word for a truth value or for nothing. -/
def constant (word : String) : Regex := chain [.edge true, .group (literal word), .edge true]

/-- An exponent; its digits are as few or as many as possible. -/
def exponent (isGreedy : Bool) : Regex :=
  chain [literal "e", maybe (oneOf "-+"), .times isGreedy 1 none anyDigit]

/-- A number without its sign, with an exponent of as few or as many digits as possible. -/
def unsigned (isGreedy : Bool) : Regex :=
  chain [many1 digit, maybe (literal "."), many digit, maybe (exponent isGreedy)]

/-- A complex number. -/
def complexNumber : Regex :=
  .group (chain [.notBehind isWordChar, maybe (literal "-"), unsigned false,
    maybe (.seq (oneOf "-+") (unsigned true)), literal "j"])

/-- A number. -/
def number : Regex :=
  .group (choice [chain [.notBehind isWordChar, maybe (literal "-"), unsigned false, .edge true],
    .seq (literal "0x") (many hexDigit)])

/-- A path with its file. -/
def path : Regex :=
  let part := wordOr "-._+"
  chain [.group (chain [.edge false, many (.seq (literal "/") (many1 part)), literal "/"]),
    maybe (.group (many part))]

/-- A text between marks. -/
def quotedBy (mark : String) : Regex :=
  chain [maybe (literal "b"), literal mark, .times false 0 none (.char (· ≠ '\n')),
    .notBehind (· = '\\'), literal mark]

/-- A quoted text. -/
def quoted : Regex :=
  .seq (.notBehind fun c => c = '\\' || isWordChar c)
    (.group (choice [quotedBy "\x27\x27\x27", quotedBy "\x27", quotedBy "\"\"\"", quotedBy "\""]))

/-- An address of the web. -/
def address : Regex :=
  let signs := "-$_+!\x60(),.?/;:&=%#~@".toList
  .group (chain [choice (["file", "https", "http", "ws", "wss"].map literal), literal "://",
    many (.char fun c => c.isAlphanum || signs.contains c)])

/-- Everything that is highlighted, in groups that may overlap. -/
def highlights : List Regex :=
  [element, assignment, bracket,
    choice [dottedAddress, colonAddress, hardwareAddress 7 3, hardwareAddress 5 2, identifier, call,
      constant "True", constant "False", constant "None", .group (literal "..."), complexNumber,
      number, path, quoted, address]]

/-- The spans of what is highlighted. -/
def spansOf (cs : List Char) : List Span :=
  (highlights.flatMap (groupsIn isWordChar · cs)).filterMap fun (start, stop) =>
    if start < stop then some ⟨start, stop, false⟩ else none

/-- A text with the spans of what is highlighted. They only matter where a joiner or a selector may
stand at the end of a run. -/
def mark (t : Marked) : Marked :=
  if t.chars.any fun c => c = Cells.joiner || c = Cells.selector then
    { t with spans := spansOf t.chars ++ t.spans }
  else t

end ScopeAlgebra.Highlight
