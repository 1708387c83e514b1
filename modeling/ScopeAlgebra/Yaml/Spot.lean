import ScopeAlgebra.Text.Ranges

/-!
# Spots of a document

A document is read as a list of spots: characters with the places where they stand. A spot that
stands for the end closes the list, so that there always is a next character. `spotsOf?` refuses
texts with characters that no document may hold.
-/

namespace ScopeAlgebra.Yaml

/-! ## Characters -/

/-- Code points of the characters that a document may hold. -/
def printableRanges : Text.Ranges :=
  [(0x09, 0x0A), (0x0D, 0x0D), (0x20, 0x7E), (0x85, 0x85), (0xA0, 0xD7FF), (0xE000, 0xFFFD),
    (0x10000, 0x10FFFF)]

/-- Whether a document may hold a character. -/
def isPrintable (c : Char) : Bool := printableRanges.contains c

/-- The character at the spot behind the text; it is not printable. -/
def endMark : Char := '\x00'

/-- The mark of the byte order, which takes no column. -/
def orderMark : Char := '\ufeff'

/-- Whether a character breaks a line. -/
def isBreak (c : Char) : Bool := ['\n', '\x85', '\u2028', '\u2029'].contains c

/-- Whether a character breaks a line or ends the text. -/
def isBreakOrEnd (c : Char) : Bool := isBreak c || c = endMark

/-- Whether a comment or a line of a block text ends in front of a character. -/
def endsLine (c : Char) : Bool := c = '\n' || c = '\x85' || c = endMark

/-- Whether an indicator counts as one in front of a character. -/
def endsWord (c : Char) : Bool := endsLine c || c = ' ' || c = '\t'

/-- What a line break leaves behind: a line feed, except for the separators of lines and
paragraphs. -/
def normalBreak (c : Char) : Char := if c = '\x85' then '\n' else c

/-! ## Spots -/

/-- A character with its place: its index in the text, its line and its column. -/
structure Spot where
  char : Char
  index : Nat
  line : Nat
  column : Nat
  deriving DecidableEq, Repr, Inhabited

/-- The spot of the next character. -/
def Spot.next (s : Spot) (char : Char) : Spot :=
  if isBreak s.char then ⟨char, s.index + 1, s.line + 1, 0⟩
  else ⟨char, s.index + 1, s.line, if s.char = orderMark then s.column else s.column + 1⟩

/-- The spots of characters behind a spot and behind those before it (last one first). -/
def spotsAfter (before : List Spot) (s : Spot) : List Char → List Spot
  | [] => (s.next endMark :: s :: before).reverse
  | c :: rest => spotsAfter (s :: before) (s.next c) rest

/-- The spots of a text and of its end. -/
def spotsOf : List Char → List Spot
  | [] => [⟨endMark, 0, 0, 0⟩]
  | c :: rest => spotsAfter [] ⟨c, 0, 0, 0⟩ rest

/-- The character at the first spot. -/
def charOf : List Spot → Char
  | [] => endMark
  | s :: _ => s.char

/-- The characters at the first spots. -/
def charsOf (count : Nat) (spots : List Spot) : List Char := (spots.take count).map (·.char)

/-- Whether the given mark of three characters stands at the first spot, as a word of its own. -/
def hasMark (mark : List Char) (spots : List Spot) : Bool :=
  charsOf 3 spots = mark && endsWord (charOf (spots.drop 3))

/-- The mark that starts a document. -/
def startMark : List Char := ['-', '-', '-']

/-- The mark that ends a document. -/
def stopMark : List Char := ['.', '.', '.']

/-- Whether a mark at the first spot separates documents. -/
def hasSeparator (spots : List Spot) : Bool := hasMark startMark spots || hasMark stopMark spots

end ScopeAlgebra.Yaml
