import ScopeAlgebra.Yaml.Plain
import ScopeAlgebra.Yaml.Property
import ScopeAlgebra.Yaml.Quoted

/-!
# Reading tokens

A colon may turn what stands in front of it into a key, so the places where a key could start are
remembered: the mark of the key is put there later. Such a key stands in one line and is not too
long. Outside of brackets, indentation opens and closes sequences and mappings.
-/

namespace ScopeAlgebra.Yaml

/-- A place where a key could start: the number of tokens in front of it, its spot, and whether a
key has to start there, since nothing else may stand at its column. -/
structure KeyStart where
  position : Nat
  spot : Spot
  isRequired : Bool
  deriving DecidableEq, Repr

/-- The greatest distance from the start of a key to its colon. -/
def keyLimit : Nat := 1024

/-- Whether a colon at a spot can belong to a key. -/
def KeyStart.reaches (k : KeyStart) (s : Spot) : Bool :=
  k.spot.line = s.line && s.index ≤ k.spot.index + keyLimit

/-- What has been read of a document: its tokens (last one first) and how many they are, the open
brackets (innermost first), the columns of the open blocks (innermost first), whether a key may
start at the next token, and where one could have started inside each of the brackets and outside of
them. -/
structure Lexer where
  tokens : List Token := []
  count : Nat := 0
  brackets : List Bracket := []
  columns : List Nat := []
  allowsKey : Bool := true
  keys : List (Option KeyStart) := [none]
  deriving DecidableEq, Repr

/-- An element put into a list behind the given number of elements. -/
def insertAt {α : Type} (a : α) : Nat → List α → List α
  | n + 1, b :: rest => b :: insertAt a n rest
  | _, rest => a :: rest

namespace Lexer

/-- Whether some bracket is open. -/
def inFlow (l : Lexer) : Bool := !l.brackets.isEmpty

/-- The least column of what stands in the innermost block. -/
def margin (l : Lexer) : Nat :=
  match l.columns with
  | [] => 0
  | column :: _ => column + 1

/-- Adds a token. -/
def add (t : Token) (l : Lexer) : Lexer := { l with tokens := t :: l.tokens, count := l.count + 1 }

/-- Puts a token behind the first tokens, given how many. -/
def insert (t : Token) (position : Nat) (l : Lexer) : Lexer :=
  { l with tokens := insertAt t (l.count - position) l.tokens, count := l.count + 1 }

/-- Says whether a key may start at the next token. -/
def allowKey (isAllowed : Bool) (l : Lexer) : Lexer := { l with allowsKey := isAllowed }

/-! ## Blocks -/

/-- Closes the blocks that stand behind a column; brackets keep them open. -/
def closeBlocks (column : Nat) (l : Lexer) : Lexer :=
  if l.inFlow then l
  else
    let closed := l.columns.takeWhile (column < ·)
    closed.foldl (fun l _ => l.add .blockEnd) { l with columns := l.columns.drop closed.length }

/-- Closes all blocks; brackets keep them open. -/
def closeAllBlocks (l : Lexer) : Lexer :=
  if l.inFlow then l else l.columns.foldl (fun l _ => l.add .blockEnd) { l with columns := [] }

/-- Opens a block at a column if it is indented more than the innermost one: its mark is put behind
the first tokens, given how many. -/
def openBlock (t : Token) (position column : Nat) (l : Lexer) : Lexer :=
  if l.margin ≤ column then { l.insert t position with columns := column :: l.columns } else l

/-! ## Keys -/

/-- Forgets where a key could start; nothing when one has to. -/
def dropKey? (l : Lexer) : Option Lexer :=
  match l.keys with
  | some k :: keys => if k.isRequired then none else some { l with keys := none :: keys }
  | _ => some l

/-- Remembers that a key could start at a spot. -/
def markKey? (s : Spot) (l : Lexer) : Option Lexer :=
  if l.allowsKey then do
    let l ← l.dropKey?
    let isRequired := !l.inFlow && l.columns.head? = some s.column
    return { l with keys := some ⟨l.count, s, isRequired⟩ :: l.keys.drop 1 }
  else some l

/-- Adds a token that a key could start with, at a spot. -/
def addNode? (t : Token) (s : Spot) (l : Lexer) : Option Lexer :=
  (l.markKey? s).map fun l => (l.add t).allowKey false

/-! ## Structure -/

/-- Adds an opening bracket. -/
def opening? (b : Bracket) (s : Spot) (l : Lexer) : Option Lexer :=
  (l.markKey? s).map fun l =>
    { (l.add (.opening b)).allowKey true with brackets := b :: l.brackets, keys := none :: l.keys }

/-- Adds a closing bracket. -/
def closing? (b : Bracket) (l : Lexer) : Option Lexer :=
  match l.brackets with
  | [] => none
  | _ :: brackets => l.dropKey?.map fun l =>
      { (l.add (.closing b)).allowKey false with brackets, keys := l.keys.drop 1 }

/-- Adds a comma. -/
def comma? (l : Lexer) : Option Lexer := l.dropKey?.map fun l => (l.add .comma).allowKey true

/-- Opens the block of a mark at a spot, where a key may start. -/
def blockFor? (t : Token) (s : Spot) (l : Lexer) : Option Lexer :=
  if l.inFlow then some l else if l.allowsKey then some (l.openBlock t l.count s.column) else none

/-- Adds the dash of an item. -/
def dash? (s : Spot) (l : Lexer) : Option Lexer := do
  return ((← (← l.blockFor? .sequenceStart s).dropKey?).add .dash).allowKey true

/-- Adds the mark of a key. -/
def key? (s : Spot) (l : Lexer) : Option Lexer := do
  return ((← (← l.blockFor? .mappingStart s).dropKey?).add .key).allowKey (!l.inFlow)

/-- Adds the colon of a value that follows no key in its line. -/
def lateValue? (s : Spot) (l : Lexer) : Option Lexer := do
  return ((← (← l.blockFor? .mappingStart s).dropKey?).add .value).allowKey (!l.inFlow)

/-- Adds the colon of a value. -/
def value? (s : Spot) (l : Lexer) : Option Lexer :=
  match l.keys with
  | some k :: keys =>
    if k.reaches s then
      let l := { l with keys := none :: keys }.insert .key k.position
      let l := if l.inFlow then l else l.openBlock .mappingStart k.position k.spot.column
      some ((l.add .value).allowKey false)
    else l.lateValue? s
  | _ => l.lateValue? s

/-- Adds a token that stands outside of all blocks. -/
def outside? (t : Token) (l : Lexer) : Option Lexer :=
  l.closeAllBlocks.dropKey?.map fun l => (l.add t).allowKey false

/-! ## Characters -/

/-- Skips blanks, comments and line breaks; a line break outside of brackets allows a key. -/
def skipFiller (inComment : Bool) (l : Lexer) : List Spot → Lexer × List Spot
  | [] => (l, [])
  | s :: rest =>
    if inComment && !endsLine s.char then l.skipFiller true rest
    else if s.char = ' ' || (s.char = '\t' && l.inFlow) then l.skipFiller false rest
    else if s.char = '#' then l.skipFiller true rest
    else if isBreak s.char then (if l.inFlow then l else l.allowKey true).skipFiller false rest
    else (l, s :: rest)

/-- Whether a key could still start at some token, seen from a spot. -/
def awaitsKey (s : Spot) (l : Lexer) : Bool := l.keys.any fun key? => key?.any (·.reaches s)

/-- Whether a colon in front of a character is the mark of a value, given the spot behind the token
before. Between curly brackets it is one, unless it follows another one while a key could still
start in front of both. -/
def isValueMark (behind : Spot) (next : Char) (l : Lexer) : Bool :=
  endsWord next || (l.brackets.head? = some .curly &&
    !(l.tokens.head? = some .value && l.awaitsKey behind))

/-- Reads a scalar that starts at a spot: one between quotation marks, a block text or a plain
one. -/
def scalar? (s : Spot) (rest : List Spot) (l : Lexer) : Option (Lexer × List Spot) :=
  if s.char = '"' || s.char = '\x27' then do
    let (quoted, rest) ← quoted? s.char {} rest
    let style := if quoted.isIllFormed then Style.illFormed else .quoted
    return (← l.addNode? (.scalar style quoted.text) s, rest)
  else if !l.inFlow && (s.char = '|' || s.char = '>') then do
    let (text, rest) ← blockText? (s.char = '>') l.margin rest
    return (((← l.dropKey?).add (.scalar .quoted text)).allowKey true, rest)
  else if startsPlain l.inFlow s.char (charOf rest) then do
    let found := plain l.inFlow l.margin {} (s :: rest)
    return ((← l.addNode? (.scalar .plain found.text) s).allowKey found.isBroken, found.rest)
  else none

/-- Reads the token that starts at a spot, given the spot behind the token before. -/
def token? (behind s : Spot) (rest : List Spot) (l : Lexer) : Option (Lexer × List Spot) :=
  let next := charOf rest
  let isWord := endsWord next
  if s.char = '%' && s.column = 0 then do
    let (t, rest) ← directive? rest
    return (← l.outside? t, rest)
  else if s.column = 0 && hasMark startMark (s :: rest) then do
    return (← l.outside? .documentStart, rest.drop 2)
  else if s.column = 0 && hasMark stopMark (s :: rest) then do
    return (← l.outside? .documentEnd, rest.drop 2)
  else if s.char = '[' then do return (← l.opening? .square s, rest)
  else if s.char = '\x7b' then do return (← l.opening? .curly s, rest)
  else if s.char = ']' then do return (← l.closing? .square, rest)
  else if s.char = '\x7d' then do return (← l.closing? .curly, rest)
  else if s.char = ',' then do return (← l.comma?, rest)
  else if s.char = '-' && isWord then do return (← l.dash? s, rest)
  else if s.char = '?' && (l.inFlow || isWord) then do return (← l.key? s, rest)
  else if s.char = ':' && l.isValueMark behind next then do return (← l.value? s, rest)
  else if s.char = '*' then do
    let (name, rest) ← anchorName? rest
    return (← l.addNode? (.alias name) s, rest)
  else if s.char = '&' then do
    let (name, rest) ← anchorName? rest
    return (← l.addNode? (.anchor name) s, rest)
  else if s.char = '!' then do
    let (t, rest) ← tag? (s :: rest)
    return (← l.addNode? t s, rest)
  else l.scalar? s rest

/-- Reads all tokens, at most `steps` of them. -/
def tokens? : Nat → Lexer → List Spot → Option (List Token)
  | 0, _, _ => none
  | steps + 1, l, spots =>
    match spots.head?, l.skipFiller false spots with
    | some behind, (l, s :: rest) =>
      if s.char = endMark then l.closeAllBlocks.dropKey?.map fun l => l.tokens.reverse
      else
        match (l.closeBlocks s.column).token? behind s rest with
        | some (l, rest) => tokens? steps l rest
        | none => none
    | _, _ => none

end Lexer

/-- The tokens of a document, given its characters; nothing when they cannot be read. -/
def tokensOf? (cs : List Char) : Option (List Token) :=
  if cs.all isPrintable then
    let cs := if cs.head? = some orderMark then cs.drop 1 else cs
    Lexer.tokens? (cs.length + 1) {} (spotsOf cs)
  else none

end ScopeAlgebra.Yaml
