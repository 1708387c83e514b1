import ScopeAlgebra.Json.Parser
import ScopeAlgebra.Yaml.Folding

/-!
# Quoted texts

A text between quotation marks may hold any characters. Single marks double a mark that is part of
the text, double marks have escapes. Lines are folded, and no mark may separate documents in it.
-/

namespace ScopeAlgebra.Yaml

/-- The character that a letter stands for after a backslash. -/
def escaped? : Char → Option Char
  | '0' => some '\x00'
  | 'a' => some '\x07'
  | 'b' => some '\x08'
  | 't' | '\t' => some '\t'
  | 'n' => some '\n'
  | 'v' => some '\x0b'
  | 'f' => some '\x0c'
  | 'r' => some '\r'
  | 'e' => some '\x1b'
  | ' ' => some ' '
  | '"' => some '"'
  | '/' => some '/'
  | '\\' => some '\\'
  | 'N' => some '\x85'
  | '_' => some '\xa0'
  | 'L' => some '\u2028'
  | 'P' => some '\u2029'
  | _ => none

/-- How many hexadecimal digits follow a letter after a backslash. -/
def digitsBehind? : Char → Option Nat
  | 'x' => some 2
  | 'u' => some 4
  | 'U' => some 8
  | _ => none

/-- What has been read of a quoted text: its characters (last one first), the gap behind them,
whether a line has just been broken, the escape that is being read, as the number of digits to come
and their value so far, and whether an escape stood for half a surrogate pair. -/
structure Quoting where
  chars : List Char := []
  gap : Gap := {}
  isNewLine : Bool := false
  escape? : Option (Nat × Nat) := none
  isIllFormed : Bool := false
  deriving DecidableEq, Repr

/-- A quoted text; one with half a surrogate pair in it is ill-formed and has lost it. -/
structure QuotedText where
  text : String
  isIllFormed : Bool
  deriving DecidableEq, Repr

namespace Quoting

/-- Fills in the gap. -/
def fill (q : Quoting) : Quoting :=
  { chars := q.gap.shown ++ q.chars, isIllFormed := q.isIllFormed }

/-- Reads a character of the text itself. -/
def char (c : Char) (q : Quoting) : Quoting := { q.fill with chars := c :: q.fill.chars }

/-- Reads the character with a code point, or half a surrogate pair. -/
def code? (code : Nat) (q : Quoting) : Option Quoting :=
  if 0xD800 ≤ code && code < 0xE000 then some { q.fill with isIllFormed := true }
  else if code < 0x110000 then some (q.char (Char.ofNat code))
  else none

/-- Reads a blank. -/
def blank (c : Char) (q : Quoting) : Quoting := { q with gap := q.gap.blank c, isNewLine := false }

/-- Reads a line break. -/
def lineBreak (c : Char) (q : Quoting) : Quoting :=
  { q with gap := q.gap.lineBreak c, isNewLine := true }

/-- Reads a line break behind a backslash. -/
def escapedBreak (q : Quoting) : Quoting := { q.fill with gap := .escapedBreak, isNewLine := true }

/-- Reads a hexadecimal digit of an escape, given how many are to come and their value so far. -/
def digit? (c : Char) (count value : Nat) (q : Quoting) : Option Quoting := do
  let value := 16 * value + (← Json.hexValue? c)
  if count = 1 then q.code? value
  else return { q with escape? := some (count - 1, value) }

/-- The text that has been read. -/
def finish (q : Quoting) : QuotedText := ⟨String.ofList q.fill.chars.reverse, q.isIllFormed⟩

end Quoting

/-- Reads a quoted text behind its opening mark: the text, and what follows its closing mark. -/
def quoted? (mark : Char) (q : Quoting) : List Spot → Option (QuotedText × List Spot)
  | [] => none
  | s :: rest =>
    if s.char = endMark || (q.isNewLine && hasSeparator (s :: rest)) then none
    else
      match q.escape? with
      | some (count, value) =>
        match q.digit? s.char count value with
        | some q => quoted? mark q rest
        | none => none
      | none =>
        if s.char = ' ' || s.char = '\t' then quoted? mark (q.blank s.char) rest
        else if isBreak s.char then quoted? mark (q.lineBreak s.char) rest
        else if s.char = mark then
          match rest with
          | next :: after =>
            if mark = '\x27' && next.char = mark then quoted? mark (q.char mark) after
            else some (q.finish, next :: after)
          | [] => some (q.finish, [])
        else if mark = '"' && s.char = '\\' then
          match rest with
          | next :: after =>
            if isBreak next.char then quoted? mark q.escapedBreak after
            else
              match escaped? next.char, digitsBehind? next.char with
              | some c, _ => quoted? mark (q.char c) after
              | none, some count =>
                quoted? mark { q.fill with escape? := some (count, 0) } after
              | none, none => none
          | [] => none
        else quoted? mark (q.char s.char) rest

end ScopeAlgebra.Yaml
