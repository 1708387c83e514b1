import ScopeAlgebra.Json.Parser
import ScopeAlgebra.Text.CharName
import ScopeAlgebra.Text.Lines

/-!
# Tokens of a literal

A literal is read as tokens: numbers, texts, names and marks. Brackets may hold many lines; outside
of them the literal ends with its line, and only blank lines and comments may stand before and
behind it. A line goes on in the next one when a backslash ends it.
-/

namespace ScopeAlgebra.Literal

/-- The sort of a number. A whole number is huge when it is beyond all binary floating-point
numbers. -/
inductive Number where
  | real
  | huge
  | imaginary
  deriving DecidableEq, Repr

/-- A token of a literal. -/
inductive Token where
  | number (sort : Number)
  | text (isBytes : Bool)
  | name (chars : List Char)
  | ellipsis
  | mark (c : Char)
  deriving DecidableEq, Repr

/-! ## Single tokens -/

/-- Whether a character can stand in a name. -/
def isNameChar (c : Char) : Bool := c.isAlphanum || c = '_' || 128 ≤ c.toNat

/-- Splits off the leading digits and low lines. -/
def spanDigits (cs : List Char) : List Char × List Char :=
  cs.span fun c => c.isDigit || c = '_'

/-- The token of a number, which no name may follow. -/
def endNumber? (sort : Number) (rest : List Char) : Option (Token × List Char) :=
  if rest.head?.any isNameChar then none else some (.number sort, rest)

/-- The first whole number beyond all binary floating-point numbers, from which on rounding leads
there. -/
def firstHuge : Nat := Nat.pow 2 1024 - Nat.pow 2 970

/-- The sort of a whole number to a base of at least two, given its digits and low lines. -/
def wholeSort (base : Nat) (cs : List Char) : Number :=
  let digits := (cs.filterMap Json.hexValue?).dropWhile (· = 0)
  if 1024 < digits.length || firstHuge ≤ digits.foldl (fun n d => base * n + d) 0 then .huge
  else .real

/-- Reads a number to a base that its first letter chose. -/
def basedNumber? (base : Nat) (cs : List Char) : Option (Token × List Char) :=
  let (found, rest) := cs.span isNameChar
  let groups := if found.head? = some '_' then found.drop 1 else found
  let isDigit (c : Char) : Bool := (Json.hexValue? c).any (· < base)
  if Text.isGrouped groups && groups.all (fun c => isDigit c || c = '_') then
    endNumber? (wholeSort base groups) rest
  else none

/-- Reads an exponent, if there is one: whether there is, and the rest. -/
def exponent? (cs : List Char) : Option (Bool × List Char) :=
  match cs with
  | c :: rest =>
    if c = 'e' || c = 'E' then
      let (found, rest) := spanDigits
        (if rest.head? = some '-' || rest.head? = some '+' then rest.drop 1 else rest)
      if Text.isGrouped found then some (true, rest) else none
    else some (false, cs)
  | [] => some (false, [])

/-- Reads a fraction, if there is one: whether there is, and the rest. -/
def fraction? (whole cs : List Char) : Option (Bool × List Char) :=
  match cs with
  | '.' :: rest =>
    let (found, rest) := spanDigits rest
    if Text.isGrouped found || (found.isEmpty && !whole.isEmpty) then some (true, rest) else none
  | _ => some (false, cs)

/-- The largest number of digits of an integer to the base ten, unless all of them are zeros. -/
def digitLimit : Nat := 4300

/-- Whether digits with low lines between them are an integer: zero, or one that does not start with
a zero. -/
def isInteger (whole : List Char) : Bool :=
  let digits := whole.filter Char.isDigit
  digits.all (· = '0') || (digits.head? ≠ some '0' && digits.length ≤ digitLimit)

/-- Reads a number to the base ten. -/
def decimalNumber? (cs : List Char) : Option (Token × List Char) := do
  let (whole, rest) := spanDigits cs
  if !whole.isEmpty && !Text.isGrouped whole then none
  let (hasFraction, rest) ← fraction? whole rest
  let (hasExponent, rest) ← exponent? rest
  match rest with
  | 'j' :: rest | 'J' :: rest => endNumber? .imaginary rest
  | _ =>
    if hasFraction || hasExponent then endNumber? .real rest
    else if isInteger whole then endNumber? (wholeSort 10 whole) rest
    else none

/-- Reads a number. -/
def number? (cs : List Char) : Option (Token × List Char) :=
  match cs with
  | '0' :: base :: rest =>
    match base.toLower with
    | 'x' => basedNumber? 16 rest
    | 'o' => basedNumber? 8 rest
    | 'b' => basedNumber? 2 rest
    | _ => decimalNumber? cs
  | _ => decimalNumber? cs

/-- Whether the given number of hexadecimal digits stands at the start. -/
def hasHexDigits (count : Nat) (cs : List Char) : Bool :=
  (cs.take count).length = count && (cs.take count).all fun c => (Json.hexValue? c).isSome

/-- Whether the name of a character stands in braces at the start. -/
def hasCharName : List Char → Bool
  | '\x7b' :: rest => rest.contains '\x7d' && Text.isCharName (rest.takeWhile (· ≠ '\x7d'))
  | _ => false

/-- Whether an escape is complete, given the character behind the backslash and what follows it. -/
def isEscape (isBytes : Bool) (c : Char) (rest : List Char) : Bool :=
  match c with
  | 'x' => hasHexDigits 2 rest
  | 'u' => isBytes || hasHexDigits 4 rest
  | 'U' =>
    isBytes || (hasHexDigits 8 rest &&
      (rest.take 3 = ['0', '0', '0'] || rest.take 4 = ['0', '0', '1', '0']))
  | 'N' => isBytes || hasCharName rest
  | _ => true

/-- What follows the closing mark of a text; in bytes every character is one of ASCII. -/
def textRest? (mark : Char) (isLong isBytes isRaw : Bool) : List Char → Option (List Char)
  | [] => none
  | '\\' :: c :: rest =>
    if (isBytes && 128 ≤ c.toNat) || !(isRaw || isEscape isBytes c rest) then none
    else textRest? mark isLong isBytes isRaw rest
  | c :: rest =>
    if c = mark then
      if isLong then
        match rest with
        | d :: e :: after =>
          if d = mark && e = mark then some after
          else textRest? mark isLong isBytes isRaw (d :: e :: after)
        | rest => textRest? mark isLong isBytes isRaw rest
      else some rest
    else if (c = '\n' && !isLong) || (isBytes && 128 ≤ c.toNat) then none
    else textRest? mark isLong isBytes isRaw rest

/-- Reads a text from its opening mark on. -/
def text? (isBytes isRaw : Bool) (cs : List Char) : Option (Token × List Char) :=
  match cs with
  | [] => none
  | mark :: rest =>
    let body? :=
      if rest.take 2 = [mark, mark] then textRest? mark true isBytes isRaw (rest.drop 2)
      else textRest? mark false isBytes isRaw rest
    body?.map fun rest => (.text isBytes, rest)

/-- The letters in front of a text: whether it is bytes, and whether backslashes stand for
themselves. -/
def textForm? (letters : List Char) : Option (Bool × Bool) :=
  match letters.map Char.toLower with
  | [] | ['u'] => some (false, false)
  | ['r'] => some (false, true)
  | ['b'] => some (true, false)
  | ['b', 'r'] | ['r', 'b'] => some (true, true)
  | _ => none

/-- Reads a name, or a text behind the letters that choose its form. -/
def nameOrText? (cs : List Char) : Option (Token × List Char) :=
  let (letters, rest) := cs.span isNameChar
  if rest.head? = some '\x27' || rest.head? = some '\x22' then
    (textForm? letters).bind fun (isBytes, isRaw) => text? isBytes isRaw rest
  else if letters.isEmpty then none
  else some (.name letters, rest)

/-- The marks of a literal. -/
def marks : List Char := ['(', ')', '\x7b', '\x7d', ',', ':', '+', '-']

/-- Reads one token. -/
def token? (cs : List Char) : Option (Token × List Char) :=
  match cs with
  | '.' :: '.' :: '.' :: rest => some (.ellipsis, rest)
  | [] => none
  | c :: rest =>
    if c.isDigit || c = '.' then number? cs
    else if marks.contains c then some (.mark c, rest)
    else nameOrText? cs

/-! ## Lines -/

/-- The indentation of a line as far as it has been read: whether the line itself is indented, and
whether one that it goes on from was. -/
structure Indent where
  here : Bool := false
  before : Bool := false
  deriving DecidableEq, Repr

/-- Skips blank lines, comments and the indentation of the next line: whether there is any, and the
rest. -/
def nextLine? (inComment : Bool) (indent : Indent) : List Char → Option (Bool × List Char)
  | [] => some (!inComment && (indent.here || indent.before), [])
  | c :: rest =>
    if c = '\n' then nextLine? false {} rest
    else if inComment then nextLine? true indent rest
    else if c = '#' then nextLine? true indent rest
    else if c = ' ' || c = '\t' then nextLine? false { indent with here := true } rest
    else if c = '\x0c' then nextLine? false { indent with here := false } rest
    else if c = '\\' then
      match rest with
      | '\n' :: rest =>
        if rest.isEmpty then none
        else nextLine? false { indent with before := indent.before || indent.here } rest
      | _ => none
    else some (indent.here || indent.before, c :: rest)

/-- How many brackets may be open. -/
def bracketLimit : Nat := 200

/-- The number of open brackets behind a token, of which there are `depth` in front of it. -/
def depthAfter? (depth : Nat) (token : Token) : Option Nat :=
  if token = .mark '(' || token = .mark '\x7b' then
    if depth < bracketLimit then some (depth + 1) else none
  else if token = .mark ')' || token = .mark '\x7d' then
    if depth = 0 then none else some (depth - 1)
  else some depth

/-- Reads all tokens, at most `steps` of them and what stands between them; `depth` brackets are
open. -/
def tokens? : Nat → Nat → List Char → Option (List Token)
  | _, depth, [] => if depth = 0 then some [] else none
  | 0, _, _ => none
  | steps + 1, depth, c :: rest =>
    if c = ' ' || c = '\t' || c = '\x0c' then tokens? steps depth rest
    else if c = '#' then tokens? steps depth (rest.dropWhile (· ≠ '\n'))
    else if c = '\\' then
      match rest with
      | '\n' :: rest => if rest.isEmpty then none else tokens? steps depth rest
      | _ => none
    else if c = '\n' then
      match nextLine? false {} rest with
      | some (isIndented, rest) =>
        if depth = 0 then if rest.isEmpty && !isIndented then some [] else none
        else tokens? steps depth rest
      | none => none
    else do
      let (token, rest) ← token? (c :: rest)
      let depth ← depthAfter? depth token
      return token :: (← tokens? steps depth rest)

/-- The tokens of a literal. -/
def tokensOf? (cs : List Char) : Option (List Token) :=
  match nextLine? false {} (Text.withLineFeeds cs) with
  | some (false, rest) => tokens? rest.length 0 rest
  | _ => none

end ScopeAlgebra.Literal
