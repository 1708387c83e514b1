import ScopeAlgebra.Text.Ranges
import ScopeAlgebra.Text.Slice

/-!
# White space

`isBlank` is the class of white-space characters, `trim` removes them from both ends of a text and
`words` splits a text at them. A text is blank when nothing is left.
-/

namespace ScopeAlgebra.Text

/-- Code points of white space: controls, information separators and the space separators. -/
def blankRanges : Ranges :=
  [(0x09, 0x0D), (0x1C, 0x20), (0x85, 0x85), (0xA0, 0xA0), (0x1680, 0x1680), (0x2000, 0x200A),
    (0x2028, 0x2029), (0x202F, 0x202F), (0x205F, 0x205F), (0x3000, 0x3000)]

/-- Whether a character is white space. -/
def isBlank (c : Char) : Bool := blankRanges.contains c

/-- The characters from the first that is not white space on. -/
def skipBlanks (cs : List Char) : List Char := cs.dropWhile isBlank

/-- The characters between leading and trailing white space. -/
def trimChars (cs : List Char) : List Char := (skipBlanks (skipBlanks cs).reverse).reverse

/-- A text without leading and trailing white space. -/
def trim (s : String) : String := String.ofList (trimChars s.toList)

/-- Whether a text holds nothing but white space. -/
def isBlankText (s : String) : Bool := s.toList.all isBlank

/-- The trimmed form of an optional text, when it has one that is not empty. -/
def present? (s? : Option String) : Option String := s?.bind fun s =>
  if isBlankText s then none else some (trim s)

/-- The words of a text: what stands between white space. -/
def words (s : String) : List String :=
  ((parts isBlank s.toList).filter fun part => !part.isEmpty).map String.ofList

/-- Skipping white space never lengthens a text. -/
theorem length_skipBlanks_le (cs : List Char) : (skipBlanks cs).length ≤ cs.length := by
  simpa [skipBlanks] using (List.dropWhile_sublist isBlank (l := cs)).length_le

end ScopeAlgebra.Text
