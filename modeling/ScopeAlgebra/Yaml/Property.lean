import ScopeAlgebra.Json.Parser
import ScopeAlgebra.Yaml.BlockText
import ScopeAlgebra.Yaml.Token

/-!
# Properties and directives

Names of anchors and aliases, tags, and the lines with directives in front of a document.
-/

namespace ScopeAlgebra.Yaml

/-- The text of spots. -/
def textOf (spots : List Spot) : String := String.ofList (spots.map (·.char))

/-- Whether a character ends a tag or a directive's value. -/
def endsProperty (c : Char) : Bool := isBreakOrEnd c || c = ' '

/-! ## Anchors -/

/-- Whether a character can stand in the name of an anchor. -/
def isAnchorChar (c : Char) : Bool :=
  isPrintable c && !([',', '[', ']', '\x7b', '\x7d', ' ', '\t', '\n', '\x85', orderMark].contains c)

/-- Reads the name of an anchor or alias behind its indicator. -/
def anchorName? (spots : List Spot) : Option (String × List Spot) :=
  let (name, rest) := spots.span (isAnchorChar ·.char)
  if name.isEmpty || charOf rest = orderMark then none else some (textOf name, rest)

/-! ## Tags -/

/-- Whether a character can stand in the handle of a tag. -/
def isHandleChar (c : Char) : Bool := c.isAlphanum || c = '-' || c = '_'

/-- Whether a character can stand in the suffix of a tag. -/
def isSuffixChar (c : Char) : Bool := c.isAlphanum || "-;/?:@&=+$,_.!~*'()[]%#".toList.contains c

/-- The bytes of escapes at the start of a suffix, in at most `steps` escapes. -/
def escapedBytes? : Nat → List Spot → Option (List UInt8 × List Spot)
  | 0, _ => none
  | steps + 1, spots =>
    if charOf spots ≠ '%' then some ([], spots)
    else
      match charsOf 2 (spots.drop 1) with
      | [high, low] => do
        let byte := 16 * (← Json.hexValue? high) + (← Json.hexValue? low)
        let (bytes, rest) ← escapedBytes? steps (spots.drop 3)
        return (byte.toUInt8 :: bytes, rest)
      | _ => none

/-- The characters of a suffix, in at most `steps` of them. -/
def suffixChars? : Nat → List Spot → Option (List Char × List Spot)
  | 0, _ => none
  | steps + 1, spots =>
    let c := charOf spots
    if c = '%' then do
      let (bytes, rest) ← escapedBytes? steps spots
      let decoded ← String.fromUTF8? ⟨bytes.toArray⟩
      let (more, rest) ← suffixChars? steps rest
      return (decoded.toList ++ more, rest)
    else if isSuffixChar c then do
      let (more, rest) ← suffixChars? steps (spots.drop 1)
      return (c :: more, rest)
    else some ([], spots)

/-- Reads the suffix of a tag. -/
def suffix? (spots : List Spot) : Option (String × List Spot) := do
  let (chars, rest) ← suffixChars? ((spots.takeWhile (isSuffixChar ·.char)).length + 2) spots
  if chars.isEmpty then none else return (String.ofList chars, rest)

/-- Reads the handle of a tag: marks of exclamation, with a name between them when there are two. -/
def handle? (spots : List Spot) : Option (String × List Spot) :=
  if charOf spots ≠ '!' then none
  else
    let (name, rest) := (spots.drop 1).span (isHandleChar ·.char)
    if name.isEmpty && charOf rest = ' ' then some ("!", rest)
    else if charOf rest = '!' then some ("!" ++ textOf name ++ "!", rest.drop 1)
    else none

/-- The tag in front of spots, unless something else than its end follows. -/
def tagWith? (handle? : Option String) (suffix : String) (rest : List Spot) :
    Option (Token × List Spot) :=
  if endsProperty (charOf rest) then some (.tag handle? suffix, rest) else none

/-- Reads a tag from its indicator on. -/
def tag? (spots : List Spot) : Option (Token × List Spot) :=
  let isDouble := charOf (spots.drop 1) = '!'
  let short := if isDouble then "!!" else "!"
  let rest := spots.drop short.length
  if charOf rest = '<' then do
    let (suffix, rest) ← suffix? (rest.drop 1)
    if charOf rest = '>' then tagWith? none suffix (rest.drop 1) else none
  else if endsWord (charOf rest) then tagWith? none short rest
  else if (rest.takeWhile (!endsProperty ·.char)).any (·.char = '!') then do
    let (handle, rest) ← handle? (if isDouble then spots.drop 1 else spots)
    let (suffix, rest) ← suffix? rest
    tagWith? (some handle) suffix rest
  else do
    let (suffix, rest) ← suffix? rest
    tagWith? (some short) suffix rest

/-! ## Directives -/

/-- Reads the digits of a number. -/
def number? (spots : List Spot) : Option (Nat × List Spot) :=
  let (digits, rest) := spots.span (·.char.isDigit)
  if digits.isEmpty then none else some (Text.natOfDigits (digits.map (·.char)), rest)

/-- Reads the version of the language. -/
def version? (spots : List Spot) : Option (Directive × List Spot) := do
  let (major, rest) ← number? spots
  if charOf rest ≠ '.' then none
  let (_, rest) ← number? (rest.drop 1)
  if endsProperty (charOf rest) then return (.version major, rest) else none

/-- Reads a handle and what it stands for. -/
def tagDirective? (spots : List Spot) : Option (Directive × List Spot) := do
  let (handle, rest) ← handle? spots
  if charOf rest ≠ ' ' then none
  let (head, rest) ← suffix? (rest.dropWhile (·.char = ' '))
  if endsProperty (charOf rest) then return (.tag handle head, rest) else none

/-- Whether a character can stand in the name of a directive. -/
def isDirectiveChar (c : Char) : Bool := isHandleChar c || c = ':' || c = '.'

/-- Reads a directive behind its indicator, up to the end of its line. -/
def directive? (spots : List Spot) : Option (Token × List Spot) := do
  let (name, rest) := spots.span (isDirectiveChar ·.char)
  if name.isEmpty || !endsProperty (charOf rest) then none
  let values := rest.dropWhile (·.char = ' ')
  let (directive, rest) ←
    match textOf name with
    | "YAML" => version? values
    | "TAG" => tagDirective? values
    | _ => some (.other, rest.dropWhile (!endsLine ·.char))
  return (.directive directive, ← emptyLineRest? rest)

end ScopeAlgebra.Yaml
