import ScopeAlgebra.Console.Cells
import ScopeAlgebra.Console.Marked
import ScopeAlgebra.Text.Blank

/-!
# Layout of lines

How a marked text is laid out in lines of a given width: a tab reaches to the next stop of its line,
a line that is too wide is broken between words, and a word that is too wide by itself is folded or
cut.
-/

namespace ScopeAlgebra.Layout

/-! ## Tabs -/

/-- The distance of tab stops. -/
def tabSize : Nat := 8

/-- Parts of a line that end with tabs, with blanks in their place, from a column on. -/
def expandParts (column : Nat) : List Marked → List Marked
  | [] => []
  | part :: rest =>
    if part.chars.getLast? = some '\t' then
      let part := { part with chars := part.chars.dropLast ++ [' '] }
      let column := column + Cells.size part.chars
      let blanks := (tabSize - column % tabSize) % tabSize
      part.extend blanks :: expandParts (column + blanks) rest
    else part :: expandParts (column + Cells.size part.chars) rest

/-- A line with blanks in place of its tabs. -/
def expandTabs (line : Marked) : Marked :=
  let ends := (Marked.positionsOf '\t' 0 line.chars).map (· + 1)
  if ends.isEmpty then line else Marked.join (expandParts 0 (line.divide ends))

/-- The lines of a text without tabs. -/
def linesOf (t : Marked) : List Marked := t.lines.map expandTabs

/-! ## Breaks -/

/-- Characters without the white space at their end. -/
def trimEnd (cs : List Char) : List Char := (Text.skipBlanks cs.reverse).reverse

/-- What happens to a word that is wider than its line: it goes on in the next line, or it is
cut. -/
inductive Overflow where
  | fold
  | ellipsis
  deriving DecidableEq, Repr

/-- The first word of a line with the white space around it, and the rest of the line. -/
def splitWord (cs : List Char) : List Char × List Char :=
  let (before, rest) := cs.span Text.isBlank
  let (word, rest) := rest.span (!Text.isBlank ·)
  let (after, rest) := rest.span Text.isBlank
  (before ++ word ++ after, rest)

/-- The words of a line with the white space around them, at most `count` of them. -/
def spacedWords : Nat → List Char → List (List Char)
  | 0, _ | _, [] => []
  | count + 1, cs =>
    let (word, rest) := splitWord cs
    word :: spacedWords count rest

/-- The positions where pieces of given lengths start, and the position of the last piece. -/
def startsOf (position : Nat) : List Nat → List Nat × Nat
  | [] => ([], position)
  | [_] => ([position], position)
  | length :: rest =>
    let (starts, last) := startsOf (position + length) rest
    (position :: starts, last)

/-- Where a line is broken, given the column and the position behind the words before. The first
word of a line starts it without a break. -/
def breaks (overflow : Overflow) (width : Nat) (column position : Nat) : List (List Char) → List Nat
  | [] => []
  | word :: rest =>
    let size := Cells.size (trimEnd word)
    let next := position + word.length
    if column + size ≤ width then breaks overflow width (column + Cells.size word) next rest
    else if overflow = .fold && width < size then
      let (starts, last) := startsOf position (Cells.piecesAfter width ⟨0, 0⟩ (Cells.clusters word))
      starts.filter (0 < ·) ++
        breaks overflow width (Cells.size (word.drop (last - position))) next rest
    else [position].filter (0 < ·) ++ breaks overflow width (Cells.size word) next rest

/-! ## Lines -/

/-- A line without white space beyond so many characters. -/
def trimExcess (width : Nat) (line : Marked) : Marked :=
  let length := line.chars.length
  let excess := min (length - width) (length - (trimEnd line.chars).length)
  if excess = 0 then line else line.take (length - excess)

/-- A line cut to the given width; one sign may say that more was there. -/
def cut (overflow : Overflow) (width : Nat) (line : Marked) : Marked :=
  if Cells.size line.chars ≤ width then line
  else
    match overflow with
    | .fold => line.withChars (Cells.crop width line.chars)
    | .ellipsis => line.withChars (Cells.crop (width - 1) line.chars ++ ['…'])

/-- A line filled up with blanks to the given width. -/
def fill (width : Nat) (line : Marked) : Marked :=
  { line with chars := line.chars ++ List.replicate (width - Cells.size line.chars) ' ' }

/-- The lines of a text, broken where they are wider than the given width. -/
def brokenLines (overflow : Overflow) (width : Nat) (t : Marked) : List Marked :=
  (linesOf t).flatMap fun line =>
    let words := spacedWords line.chars.length line.chars
    (line.divide (breaks overflow width 0 0 words)).map (trimExcess width)

/-- The lines of a text where lines have the given width. -/
def linesWithin (overflow : Overflow) (width : Nat) (t : Marked) : List Marked :=
  (brokenLines overflow width t).map (cut overflow width)

/-- A line in the middle of the given width. -/
def center (width : Nat) (line : Marked) : Marked :=
  let line := cut .fold width (line.withChars (trimEnd line.chars))
  fill width (line.indent ((width - Cells.size line.chars) / 2))

/-! ## Shown lines -/

/-- Runs of characters up to the given width, each measured by itself. -/
def cropRuns (width : Nat) : List (List Char) → List Char
  | [] => []
  | run :: rest =>
    if Cells.size run < width then run ++ cropRuns (width - Cells.size run) rest
    else Cells.crop width run

/-- What is shown of a line of the given width; nothing when one of its styles cannot be shown. -/
def shown? (width : Nat) (line : Marked) : Option String :=
  if !line.isShowable then none
  else
    let runs := line.runs
    let total := runs.foldr (fun run total => Cells.size run + total) 0
    some (String.ofList (if total ≤ width then line.chars else cropRuns width runs))

/-- What a text shows in lines of the given width. -/
def textLines? (width : Nat) (t : Marked) : Option (List String) :=
  (linesWithin .fold width t).mapM (shown? width)

/-- What the title of a table of one width shows in the middle of it on a console of another. -/
def titleLines? (console width : Nat) (t : Marked) : Option (List String) :=
  (brokenLines .fold width t).mapM fun line => shown? console (center width line)

/-- What a cell of a table shows in a column of the given width. -/
def cellLines? (width : Nat) (t : Marked) : Option (List String) :=
  (linesWithin .ellipsis width t).mapM fun line => shown? width (fill width line)

end ScopeAlgebra.Layout
