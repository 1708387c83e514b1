import ScopeAlgebra.Text.CharNameTable

/-!
# Names of characters

`isCharName` says whether a text names a character. Most names are listed in tables and may be
written in either case. The names of Hangul syllables are put together from the names of their
sounds, and those of unified ideographs from their code points; both are written in capitals.
-/

namespace ScopeAlgebra.Text

namespace CharName

/-! ## Listed names -/

/-- Whether a name is one of those that a table lists behind a name before, which is reversed and
may still be incomplete. The name sought is reversed as well. -/
def isListedAfter (sought before : List Char) (isComplete : Bool) : List Char → Bool
  | [] => isComplete && before == sought
  | c :: rest =>
    if c.isLower then
      (isComplete && before == sought) ||
        isListedAfter sought (before.drop (c.toNat - 'a'.toNat)) false rest
    else if c = '\n' then isListedAfter sought before isComplete rest
    else isListedAfter sought (c :: before) true rest

/-- Whether a name is listed. -/
def isListed (name : List Char) : Bool :=
  match name with
  | [] => false
  | first :: _ => isListedAfter name.reverse [] false (namesWith first).toList

/-! ## Hangul syllables -/

/-- The sounds that a syllable starts with. -/
def leads : List String :=
  ["G", "GG", "N", "D", "DD", "R", "M", "B", "BB", "S", "SS", "", "J", "JJ", "C", "K",
    "T", "P", "H"]

/-- The vowels of syllables. -/
def vowels : List String :=
  ["A", "AE", "YA", "YAE", "EO", "E", "YEO", "YE", "O", "WA", "WAE", "OE", "YO", "U", "WEO", "WE",
    "WI", "YU", "EU", "YI", "I"]

/-- The sounds that a syllable ends with. -/
def tails : List String :=
  ["", "G", "GG", "GS", "N", "NJ", "NH", "D", "L", "LG", "LM", "LB", "LS", "LT", "LP", "LH", "M",
    "B", "BS", "S", "SS", "NG", "J", "C", "K", "T", "P", "H"]

/-- What follows the longest of several sounds at the start of a name. -/
def afterSound? (sounds : List String) (cs : List Char) : Option (List Char) :=
  let lengths := (sounds.filter fun sound => sound.toList.isPrefixOf cs).map String.length
  lengths.max?.map cs.drop

/-- Whether characters are the sounds of a syllable. -/
def isSyllable (cs : List Char) : Bool :=
  (((afterSound? leads cs).bind (afterSound? vowels)).bind (afterSound? tails)).any List.isEmpty

/-! ## Unified ideographs -/

/-- Code points of unified ideographs. -/
def ideographRanges : List (Nat × Nat) :=
  [(0x3400, 0x4DBF), (0x4E00, 0x9FFF), (0x20000, 0x2A6DF), (0x2A700, 0x2B738), (0x2B740, 0x2B81D),
    (0x2B820, 0x2CEA1), (0x2CEB0, 0x2EBE0), (0x30000, 0x3134A)]

/-- The value of a hexadecimal digit in capitals. -/
def hexValue? (c : Char) : Option Nat :=
  if c.isDigit then some (c.toNat - '0'.toNat)
  else if 'A' ≤ c && c ≤ 'F' then some (c.toNat - 'A'.toNat + 10)
  else none

/-- Whether four or five hexadecimal digits are the code point of a unified ideograph. -/
def isIdeograph (cs : List Char) : Bool :=
  match cs.mapM hexValue? with
  | some digits =>
    let code := digits.foldl (fun n d => 16 * n + d) 0
    (cs.length = 4 || cs.length = 5) && ideographRanges.any fun range =>
      range.1 ≤ code && code ≤ range.2
  | none => false

/-- The words in front of the sounds of a syllable. -/
def syllableWords : List Char := "HANGUL SYLLABLE ".toList

/-- The words in front of the code point of a unified ideograph. -/
def ideographWords : List Char := "CJK UNIFIED IDEOGRAPH-".toList

end CharName

open CharName in
/-- Whether characters are the name of a character. -/
def isCharName (name : List Char) : Bool :=
  if syllableWords.isPrefixOf name then isSyllable (name.drop syllableWords.length)
  else if ideographWords.isPrefixOf name then isIdeograph (name.drop ideographWords.length)
  else isListed (name.map Char.toUpper)

end ScopeAlgebra.Text
