import ScopeAlgebra.Console.Literal.Token

/-!
# Literals

The arguments that a tag hands to a handler are a literal: a number, a text, a constant, or a group
of literals in brackets. `isLiteral` says whether a text is one. It reads the text into tokens and
the tokens into an expression, of which only the sort is kept: sums may join a real number and an
imaginary one, and nothing that holds a set or a mapping can be a member of a set or a key of a
mapping.

Brackets make an expression deep. Each place in them has a weight, the weights of the places around
an expression add up to its level, and no level may pass a limit.
-/

namespace ScopeAlgebra

namespace Literal

/-- The form of an expression, as far as it decides where the expression can stand. -/
inductive Form where
  /-- A number without a sign. -/
  | number (sort : Number)
  /-- A real number behind a sign. -/
  | signed
  /-- Any other that can be a member of a set. -/
  | settled
  /-- A set or a mapping, or a group that holds one. -/
  | collection
  deriving DecidableEq, Repr

/-! ## Levels -/

/-- The highest level. -/
def levelLimit : Nat := 6000

/-- The levels of the first expression of a literal and of those behind it. -/
def outerLevels : Nat × Nat := (25, 27)

/-- The weights of the first, the second and the later places in round brackets. -/
def roundWeights : Nat × Nat × Nat := (28, 30, 31)

/-- The weights of the first and the later places in braces. -/
def braceWeights : Nat × Nat := (29, 30)

/-- The levels that a text adds to its own. -/
def textWeight : Nat := 2

/-- The levels that the empty brackets of a set add to its own. -/
def setWeight : Nat := 24

/-- What has been read, unless the level is too high. -/
def within {α : Type} (level : Nat) (found : Option α) : Option α :=
  if level ≤ levelLimit then found else none

/-! ## Sets -/

/-- Code points of the letters of `set` in other forms, such as wide, raised and mathematical
ones. -/
def setLetters : List (List Nat) :=
  [[0x73, 0x17F, 0x2E2, 0x209B, 0xFF53, 0x1D42C, 0x1D460, 0x1D494, 0x1D4C8, 0x1D4FC, 0x1D530,
      0x1D564, 0x1D598, 0x1D5CC, 0x1D600, 0x1D634, 0x1D668, 0x1D69C],
    [0x65, 0x1D49, 0x2091, 0x212F, 0x2147, 0xFF45, 0x1D41E, 0x1D452, 0x1D486, 0x1D4EE, 0x1D522,
      0x1D556, 0x1D58A, 0x1D5BE, 0x1D5F2, 0x1D626, 0x1D65A, 0x1D68E],
    [0x74, 0x1D57, 0x209C, 0xFF54, 0x1D42D, 0x1D461, 0x1D495, 0x1D4C9, 0x1D4FD, 0x1D531, 0x1D565,
      0x1D599, 0x1D5CD, 0x1D601, 0x1D635, 0x1D669, 0x1D69D]]

/-- Whether a name is that of sets, in letters of any form. -/
def isSetName (chars : List Char) : Bool :=
  chars.length = setLetters.length && (chars.zip setLetters).all fun (c, forms) =>
    forms.contains c.toNat

/-- What follows empty round brackets. -/
def afterEmptyBrackets? (ts : List Token) : Option (List Token) :=
  if ts.take 2 = [.mark '(', .mark ')'] then some (ts.drop 2) else none

/-- What follows the name of sets, which may stand in round brackets of its own, in at most `steps`
of them. -/
def afterSetName? (steps level : Nat) (ts : List Token) : Option (List Token) :=
  match steps, ts with
  | _, .name chars :: rest => if isSetName chars then within level (some rest) else none
  | steps + 1, .mark '(' :: rest =>
    match afterSetName? steps (level + roundWeights.1) rest with
    | some (.mark ')' :: rest) => some rest
    | _ => none
  | _, _ => none

/-- What follows an empty set. -/
def afterSet? (steps level : Nat) (ts : List Token) : Option (List Token) :=
  within (level + setWeight) ((afterSetName? steps level ts).bind afterEmptyBrackets?)

/-! ## Expressions -/

/-- Texts that stand next to each other are one, but bytes do not mix with other texts. -/
def adjacentTexts? (isBytes : Bool) : List Token → Option (Form × List Token)
  | .text b :: rest => if b = isBytes then adjacentTexts? isBytes rest else none
  | rest => some (.settled, rest)

mutual

/-- Reads a number with or without a sign, a sum of a real and an imaginary number, or any other
expression of the given level, in at most `steps` steps. -/
def sum? : Nat → Nat → List Token → Option (Form × List Token)
  | 0, _, _ => none
  | steps + 1, level, ts => do
    let (left, rest) ← signed? steps level ts
    if rest.head? = some (.mark '+') || rest.head? = some (.mark '-') then
      let (right, rest) ← operand? steps level (rest.drop 1)
      if (left = .number .real || left = .signed) && right = .number .imaginary then
        some (.settled, rest)
      else none
    else return (left, rest)

/-- Reads an operand behind a sign or without one. -/
def signed? : Nat → Nat → List Token → Option (Form × List Token)
  | 0, _, _ => none
  | steps + 1, level, ts =>
    if ts.head? = some (.mark '+') || ts.head? = some (.mark '-') then
      match operand? steps (level + 1) (ts.drop 1) with
      | some (.number .real, rest) => some (.signed, rest)
      | some (.number _, rest) => some (.settled, rest)
      | _ => none
    else operand? steps level ts

/-- Reads a number, a text, a constant or a group. -/
def operand? : Nat → Nat → List Token → Option (Form × List Token)
  | 0, _, _ | _, _, [] => none
  | steps + 1, level, first :: rest =>
    match afterSet? steps level (first :: rest), first with
    | some rest, _ => some (.collection, rest)
    | none, .number sort => within level (some (.number sort, rest))
    | none, .text isBytes => within (level + textWeight) (adjacentTexts? isBytes rest)
    | none, .ellipsis => within level (some (.settled, rest))
    | none, .name chars =>
      if ["True", "False", "None"].contains (String.ofList chars) then
        within level (some (.settled, rest))
      else none
    | none, .mark c =>
      if c = '(' then round? steps level rest
      else if c = '\x7b' then braces? steps level rest
      else none

/-- Reads what follows an opening round bracket: nothing, one expression, or several with commas. -/
def round? : Nat → Nat → List Token → Option (Form × List Token)
  | 0, _, _ => none
  | steps + 1, level, ts =>
    let (first, second, later) := roundWeights
    if ts.head? = some (.mark ')') then within (level + first) (some (.settled, ts.drop 1))
    else do
      let (form, rest) ← sum? steps (level + first) ts
      if rest.head? = some (.mark ')') then return (form, rest.drop 1)
      let (forms, rest) ← members? steps (level + second) (level + later) (some (.mark ')')) rest
      return (if (form :: forms).contains .collection then .collection else .settled, rest)

/-- Reads what follows an opening brace: nothing, the members of a set or the entries of a
mapping. -/
def braces? : Nat → Nat → List Token → Option (Form × List Token)
  | 0, _, _ => none
  | steps + 1, level, ts =>
    let (first, later) := braceWeights
    if ts.head? = some (.mark '\x7d') then within (level + first) (some (.collection, ts.drop 1))
    else do
      let (form, rest) ← sum? steps (level + first) ts
      if form = .collection then none
      else if rest.head? = some (.mark ':') then
        let (_, rest) ← sum? steps (level + first) (rest.drop 1)
        let rest ← entries? steps (level + later) rest
        return (.collection, rest)
      else
        let (forms, rest) ←
          members? steps (level + later) (level + later) (some (.mark '\x7d')) rest
        if forms.contains .collection then none else return (.collection, rest)

/-- Reads the members of a group behind its first one and its end, which is a bracket or the end of
the tokens. The place behind a comma has the first of the levels, and all after it have the
second. -/
def members? : Nat → Nat → Nat → Option Token → List Token → Option (List Form × List Token)
  | 0, _, _, _, _ => none
  | steps + 1, next, later, close?, ts =>
    if ts.head? = close? then some ([], ts.drop 1)
    else if ts.head? ≠ some (.mark ',') then none
    else if (ts.drop 1).head? = close? then within next (some ([], ts.drop 2))
    else do
      let (form, rest) ← sum? steps next (ts.drop 1)
      let (forms, rest) ← members? steps later later close? rest
      return (form :: forms, rest)

/-- Reads the entries of a mapping behind its first one, with the closing brace. -/
def entries? : Nat → Nat → List Token → Option (List Token)
  | 0, _, _ => none
  | steps + 1, level, ts =>
    if ts.head? = some (.mark '\x7d') then some (ts.drop 1)
    else if ts.head? ≠ some (.mark ',') then none
    else if (ts.drop 1).head? = some (.mark '\x7d') then within level (some (ts.drop 2))
    else do
      let (key, rest) ← sum? steps level (ts.drop 1)
      if key = .collection || rest.head? ≠ some (.mark ':') then none
      else
        let (_, rest) ← sum? steps level (rest.drop 1)
        entries? steps level rest

end

/-- Whether tokens are an expression, or several with commas. -/
def isExpression (ts : List Token) : Bool :=
  let steps := 4 * (ts.length + 1)
  let (first, later) := outerLevels
  ((sum? steps first ts).bind fun (_, rest) => members? steps later later none rest).isSome

end Literal

/-- Whether a text is a literal. -/
def isLiteral (cs : List Char) : Bool :=
  !cs.contains '\x00' && (Literal.tokensOf? cs).any Literal.isExpression

end ScopeAlgebra
