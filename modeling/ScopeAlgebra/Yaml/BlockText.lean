import ScopeAlgebra.Yaml.Spot

/-!
# Block texts

A block text takes whole lines: all that are indented as much as its first one, or as its header
says. Its line breaks are kept or, in the folding style, made blanks between lines that do not start
with one. The header also says what becomes of the line breaks at the end.
-/

namespace ScopeAlgebra.Yaml

/-- What becomes of the line breaks at the end: none stays, the first does, or all do. -/
inductive Chomping where
  | strip
  | clip
  | keep
  deriving DecidableEq, Repr

/-- The header of a block text: whether its lines are folded, how its end is chomped, and how much
it is indented more than what it stands in, if it says so. -/
structure BlockHeader where
  isFolded : Bool
  chomping : Chomping := .clip
  increment? : Option Nat := none
  deriving DecidableEq, Repr

/-- What has been read of a block text: its characters and the line breaks behind its last line
(last ones first), that line's own break and whether it starts with a blank. -/
structure BlockLines where
  chars : List Char := []
  breaks : List Char := []
  lineBreak? : Option Char := none
  startsBlank : Bool := false
  deriving DecidableEq, Repr

namespace BlockHeader

/-- The chomping that a sign asks for. -/
def chomping? : Char → Option Chomping
  | '+' => some .keep
  | '-' => some .strip
  | _ => none

/-- Reads a sign, if there is one. -/
def sign (h : BlockHeader) (spots : List Spot) : BlockHeader × List Spot :=
  match chomping? (charOf spots) with
  | some chomping => ({ h with chomping }, spots.drop 1)
  | none => (h, spots)

/-- Reads a digit, if there is one; a zero is refused. -/
def digit? (h : BlockHeader) (spots : List Spot) : Option (BlockHeader × List Spot) :=
  let c := charOf spots
  if c = '0' then none
  else if c.isDigit then some ({ h with increment? := some (c.toNat - '0'.toNat) }, spots.drop 1)
  else some (h, spots)

/-- Reads a sign and a digit in either order, if they are there. -/
def marks? (h : BlockHeader) (spots : List Spot) : Option (BlockHeader × List Spot) :=
  if (chomping? (charOf spots)).isSome then
    let (h, spots) := h.sign spots
    h.digit? spots
  else (h.digit? spots).map fun (found, rest) =>
    if (charOf spots).isDigit then found.sign rest else (found, rest)

end BlockHeader

/-- The rest of a line that may hold a comment, without its break; nothing when it holds something
else. -/
def emptyLineRest? (spots : List Spot) : Option (List Spot) :=
  let rest := spots.dropWhile (·.char = ' ')
  let rest := if charOf rest = '#' then rest.dropWhile (!endsLine ·.char) else rest
  if isBreak (charOf rest) then some (rest.drop 1)
  else if charOf rest = endMark then some rest
  else none

/-- Reads the header of a block text behind its indicator, up to the end of its line. -/
def blockHeader? (isFolded : Bool) (spots : List Spot) : Option (BlockHeader × List Spot) := do
  let (header, rest) ← BlockHeader.marks? { isFolded } spots
  if isBreakOrEnd (charOf rest) || charOf rest = ' ' then
    return (header, ← emptyLineRest? rest)
  else none

/-- The blank lines and the indentation in front of the first line of a block text: the line breaks
(last one first), the column of the first of them and the greatest column behind blanks. -/
structure BlockLead where
  breaks : List Char := []
  firstBreak? : Option Nat := none
  indent : Nat := 0
  deriving DecidableEq, Repr

/-- Reads what stands in front of the first line of a block text. -/
def blockLead (l : BlockLead) : List Spot → BlockLead × List Spot
  | [] => (l, [])
  | s :: rest =>
    if s.char = ' ' then blockLead { l with indent := max l.indent (s.column + 1) } rest
    else if isBreak s.char then
      blockLead { l with
        breaks := normalBreak s.char :: l.breaks
        firstBreak? := some (l.firstBreak?.getD s.column) } rest
    else (l, s :: rest)

/-- Whether a blank line in front of a block text is indented, but less than a later one. -/
def BlockLead.isFaulty (l : BlockLead) : Bool :=
  l.firstBreak?.any fun column => 0 < column && column < l.indent

namespace BlockLines

/-- Joins the lines read so far to the next one, which starts with the given character. -/
def join (isFolded : Bool) (next : Char) (b : BlockLines) : BlockLines :=
  let isJoined := isFolded && b.lineBreak? = some '\n' && !b.startsBlank &&
    next ≠ ' ' && next ≠ '\t'
  let between := if isJoined then (if b.breaks.isEmpty then [' '] else []) else b.lineBreak?.toList
  { chars := b.breaks ++ between ++ b.chars, startsBlank := next = ' ' || next = '\t' }

/-- The text whose lines have been read. -/
def finish (chomping : Chomping) (b : BlockLines) : String :=
  let ending :=
    match chomping with
    | .strip => []
    | .clip => b.lineBreak?.toList
    | .keep => b.breaks ++ b.lineBreak?.toList
  String.ofList (ending ++ b.chars).reverse

end BlockLines

/-- Reads the lines of a block text whose indentation is known, in a line or in front of one. A text
that is not indented ends in front of a mark that separates documents. -/
def blockLines (header : BlockHeader) (indent : Nat) (inLine : Bool) (b : BlockLines) :
    List Spot → String × List Spot
  | [] => (b.finish header.chomping, [])
  | s :: rest =>
    if inLine then
      if s.char = endMark then (b.finish header.chomping, s :: rest)
      else if endsLine s.char then
        blockLines header indent false { b with lineBreak? := some (normalBreak s.char) } rest
      else blockLines header indent true { b with chars := s.char :: b.chars } rest
    else if s.char = ' ' && s.column < indent then blockLines header indent false b rest
    else if isBreak s.char then
      blockLines header indent false { b with breaks := normalBreak s.char :: b.breaks } rest
    else if s.column = indent && s.char ≠ endMark &&
        !(indent = 0 && b.lineBreak?.isSome && hasSeparator (s :: rest)) then
      let b := b.join header.isFolded s.char
      blockLines header indent true { b with chars := s.char :: b.chars } rest
    else (b.finish header.chomping, s :: rest)

/-- Reads a block text behind its indicator, in what is indented up to the column `margin - 1`. -/
def blockText? (isFolded : Bool) (margin : Nat) (spots : List Spot) :
    Option (String × List Spot) := do
  let (header, rest) ← blockHeader? isFolded spots
  match header.increment? with
  | some increment => return blockLines header (max margin 1 + increment - 1) false {} rest
  | none =>
    let (lead, rest) := blockLead {} rest
    if lead.isFaulty then none
    else return blockLines header (max margin lead.indent) false { breaks := lead.breaks } rest

end ScopeAlgebra.Yaml
