import ScopeAlgebra.Yaml.Folding

/-!
# Plain texts

A plain text has no marks around it. It ends in front of an indicator, a comment or a tab, and
outside of brackets also in front of a line that is not indented enough. Its lines are folded.
-/

namespace ScopeAlgebra.Yaml

/-- Characters that have a meaning of their own at the start of a text. -/
def indicators : List Char :=
  ['-', '?', ':', ',', '[', ']', '\x7b', '\x7d', '#', '&', '*', '!', '|', '>', '\x27', '"',
    '%', '@', '\x60']

/-- Whether a plain text can start with a character in front of another one. -/
def startsPlain (inFlow : Bool) (c next : Char) : Bool :=
  !(indicators.contains c || isBreakOrEnd c || c = ' ' || c = '\t') ||
    (c = '-' && !endsWord next) ||
    (c = ':' && inFlow && next ≠ ' ' && next ≠ '\t') ||
    (!inFlow && (c = '?' || c = ':') && !endsWord next)

/-- Whether a word of a plain text ends in front of a character that is followed by another one. -/
def endsPlainWord (inFlow : Bool) (c next : Char) : Bool :=
  endsWord c || (c = ':' && endsWord next) || (inFlow && [',', '[', ']', '\x7b', '\x7d'].contains c)

/-- What has been read of a plain text: its characters (last one first), whether a word is being
read, the gap behind the last word, and whether a line has just been broken. -/
structure Plain where
  chars : List Char := []
  inWord : Bool := true
  gap : Gap := {}
  isNewLine : Bool := false
  deriving DecidableEq, Repr

/-- A plain text with what follows it: whether a line was broken behind it, and the rest. -/
structure PlainText where
  text : String
  isBroken : Bool
  rest : List Spot
  deriving DecidableEq, Repr

/-- The text that has been read, in front of a rest. -/
def Plain.finish (p : Plain) (rest : List Spot) : PlainText :=
  ⟨String.ofList p.chars.reverse, p.gap.fold?.isSome, rest⟩

/-- Reads a plain text; outside of brackets its lines stand at the column `margin` or behind it. -/
def plain (inFlow : Bool) (margin : Nat) (p : Plain) : List Spot → PlainText
  | [] => p.finish []
  | s :: rest =>
    let isEnd := endsPlainWord inFlow s.char (charOf rest)
    if p.inWord && !isEnd then plain inFlow margin { p with chars := s.char :: p.chars } rest
    else if p.isNewLine && hasSeparator (s :: rest) then p.finish (s :: rest)
    else if s.char = ' ' then
      plain inFlow margin
        { p with inWord := false, gap := p.gap.blank ' ', isNewLine := false } rest
    else if isBreak s.char then
      plain inFlow margin
        { p with inWord := false, gap := p.gap.lineBreak s.char, isNewLine := true } rest
    else if p.inWord || isEnd || s.char = '#' || (!inFlow && s.column < margin) then
      p.finish (s :: rest)
    else plain inFlow margin { chars := s.char :: (p.gap.shown ++ p.chars) } rest

end ScopeAlgebra.Yaml
