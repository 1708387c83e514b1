/-!
# Regular expressions

An expression is tried at a place of a text; where it can go on in several ways, the first one that
leads to a match counts. Groups remember what they matched.
-/

namespace ScopeAlgebra.Text

/-- A regular expression. -/
inductive Regex where
  /-- One character of a class. -/
  | char (isMember : Char → Bool)
  /-- Nothing. -/
  | nothing
  /-- Nothing, at the edge of a word or anywhere else. -/
  | edge (isExpected : Bool)
  /-- Nothing, unless a character of a class stands in front of it. -/
  | notBehind (isMember : Char → Bool)
  /-- One behind the other. -/
  | seq (first second : Regex)
  /-- The first, or else the second. -/
  | alt (first second : Regex)
  /-- Several times, as often as possible or as seldom; without a greatest number there is no
  limit. -/
  | times (isGreedy : Bool) (least : Nat) (most? : Option Nat) (body : Regex)
  /-- Remembered as a group. -/
  | group (body : Regex)

namespace Regex

/-- A place in a text: the character in front of it, those behind it and how many they are, its
index, and the groups that were matched before it (last one first). -/
structure Place where
  before? : Option Char := none
  rest : List Char
  left : Nat
  index : Nat := 0
  groups : List (Nat × Nat) := []
  deriving DecidableEq, Repr

/-- Whether exactly one of two characters belongs to a word. -/
def isEdge (isWordChar : Char → Bool) (s : Place) : Bool :=
  s.before?.any isWordChar != s.rest.head?.any isWordChar

/-- The place behind the next character, if that belongs to a class. -/
def Place.behind? (isMember : Char → Bool) (s : Place) : Option Place :=
  match s.rest with
  | [] => none
  | c :: rest =>
    if isMember c then
      some { s with before? := some c, rest, left := s.left - 1, index := s.index + 1 }
    else none

/-- Goes on behind as few characters of a class as possible, at least and at most so many. -/
def behindFew {α : Type} (isMember : Char → Bool) (go : Place → Option α) (least : Nat) :
    Nat → Place → Option α
  | 0, s => if least = 0 then go s else none
  | most + 1, s =>
    match if least = 0 then go s else none with
    | some found => some found
    | none =>
      match s.behind? isMember with
      | some s => behindFew isMember go (least - 1) most s
      | none => none

/-- Goes on behind as many characters of a class as possible, at least and at most so many, or else
at the places passed before (last one first). -/
def behindMany {α : Type} (isMember : Char → Bool) (go : Place → Option α) (least : Nat)
    (passed : List Place) : Nat → Place → Option α
  | 0, s => (if least = 0 then s :: passed else passed).findSome? go
  | most + 1, s =>
    let passed := if least = 0 then s :: passed else passed
    match s.behind? isMember with
    | some s => behindMany isMember go (least - 1) passed most s
    | none => passed.findSome? go

/-- Repeats a step between places, at least and at most so many times. -/
def repeated {α : Type} (step : Place → (Place → Option α) → Option α) (isGreedy : Bool)
    (least : Nat) : Nat → Place → (Place → Option α) → Option α
  | 0, s, go => if least = 0 then go s else none
  | most + 1, s, go =>
    let more (_ : Unit) := step s fun s => repeated step isGreedy (least - 1) most s go
    if 0 < least then more ()
    else if isGreedy then (more ()).orElse fun _ => go s
    else (go s).orElse more

/-- Tries an expression at a place and goes on behind it. -/
def run {α : Type} (isWordChar : Char → Bool) : Regex → Place → (Place → Option α) → Option α
  | .char isMember, s, go =>
    match s.behind? isMember with
    | some s => go s
    | none => none
  | .nothing, s, go => go s
  | .edge isExpected, s, go => if isEdge isWordChar s = isExpected then go s else none
  | .notBehind isMember, s, go => if s.before?.any isMember then none else go s
  | .seq first second, s, go => first.run isWordChar s fun s => second.run isWordChar s go
  | .alt first second, s, go =>
    (first.run isWordChar s go).orElse fun _ => second.run isWordChar s go
  | .times true least most? (.char isMember), s, go =>
    behindMany isMember go least [] (most?.getD s.left) s
  | .times false least most? (.char isMember), s, go =>
    behindFew isMember go least (most?.getD s.left) s
  | .times isGreedy least most? body, s, go =>
    repeated (fun s go => body.run isWordChar s go) isGreedy least (most?.getD s.left) s go
  | .group body, s, go =>
    body.run isWordChar s fun t => go { t with groups := (s.index, t.index) :: t.groups }

/-- The groups of all matches from a place on (last one first), behind those before; so many
characters in front belong to the last match. -/
def groupsFrom (isWordChar : Char → Bool) (r : Regex) (groups : List (Nat × Nat))
    (before? : Option Char) (index left skipped : Nat) : List Char → List (Nat × Nat)
  | [] => groups
  | c :: rest =>
    match skipped with
    | skipped + 1 => groupsFrom isWordChar r groups (some c) (index + 1) (left - 1) skipped rest
    | 0 =>
      match r.run isWordChar { before?, rest := c :: rest, left, index } some with
      | some stop =>
        groupsFrom isWordChar r (stop.groups ++ groups) (some c) (index + 1) (left - 1)
          (stop.index - index - 1) rest
      | none => groupsFrom isWordChar r groups (some c) (index + 1) (left - 1) 0 rest

/-- The groups of all matches in a text, given the characters of words. -/
def groupsIn (isWordChar : Char → Bool) (r : Regex) (cs : List Char) : List (Nat × Nat) :=
  (groupsFrom isWordChar r [] none 0 cs.length 0 cs).reverse

/-! ## Common forms -/

/-- One of the given characters. -/
def oneOf (cs : String) : Regex := .char cs.toList.contains

/-- The given characters. -/
def literal (text : String) : Regex :=
  text.toList.foldr (fun c r => .seq (.char (· = c)) r) .nothing

/-- Expressions one behind the other. -/
def chain (parts : List Regex) : Regex := parts.foldr .seq .nothing

/-- The first of several expressions that leads to a match. -/
def choice : List Regex → Regex
  | [] => .char fun _ => false
  | [r] => r
  | r :: rest => .alt r (choice rest)

/-- Any number of times. -/
def many (r : Regex) : Regex := .times true 0 none r

/-- Once or more often. -/
def many1 (r : Regex) : Regex := .times true 1 none r

/-- At most once. -/
def maybe (r : Regex) : Regex := .times true 0 (some 1) r

/-- At least and at most so many times. -/
def between (least most : Nat) (r : Regex) : Regex := .times true least (some most) r

/-- So many times. -/
def exactly (count : Nat) (r : Regex) : Regex := between count count r

end Regex

end ScopeAlgebra.Text
