/-!
# Parts of texts

Tests for the start of a text, removal of a character from its ends, and the parts between
separators.
-/

namespace ScopeAlgebra.Text

/-- A text without the leading characters `c`. -/
def stripLeft (c : Char) (s : String) : String := String.ofList (s.toList.dropWhile (· = c))

/-- A text without the trailing characters `c`. -/
def stripRight (c : Char) (s : String) : String :=
  String.ofList (s.toList.reverse.dropWhile (· = c)).reverse

/-- Whether a text starts with `head`. -/
def hasHead (head s : String) : Bool := head.toList.isPrefixOf s.toList

/-- What follows the first `head.length` characters of a text. -/
def afterHead (head s : String) : List Char := s.toList.drop head.toList.length

/-- The parts of a text between separators; there is one more than there are separators. -/
def parts (isSeparator : Char → Bool) : List Char → List (List Char)
  | [] => [[]]
  | c :: rest =>
    match parts isSeparator rest with
    | [] => [[c]]
    | part :: parts => if isSeparator c then [] :: part :: parts else (c :: part) :: parts

/-- Whether `part` occurs in a list of characters. -/
def occursIn (part : List Char) : List Char → Bool
  | [] => part.isEmpty
  | c :: rest => part.isPrefixOf (c :: rest) || occursIn part rest

end ScopeAlgebra.Text
