import ScopeAlgebra.Console.Color
import ScopeAlgebra.Text.Blank
import ScopeAlgebra.Vocabulary

/-!
# Styles

A style switches effects on or off and sets colours and a link. `Style.read` reads it from words in
any order and `Style.text` writes it in a fixed one, so that styles of the same effect are the same
text in the end.
-/

namespace ScopeAlgebra

/-- An effect on shown text. -/
inductive Effect where
  | bold
  | dim
  | italic
  | underline
  | blink
  | fastBlink
  | reverse
  | conceal
  | strike
  | doubleUnderline
  | frame
  | encircle
  | overline
  deriving DecidableEq, Repr

instance : Vocabulary Effect where
  title := "Effect"
  all := [.bold, .dim, .italic, .underline, .blink, .fastBlink, .reverse, .conceal, .strike,
    .doubleUnderline, .frame, .encircle, .overline]
  word
    | .bold => "bold"
    | .dim => "dim"
    | .italic => "italic"
    | .underline => "underline"
    | .blink => "blink"
    | .fastBlink => "blink2"
    | .reverse => "reverse"
    | .conceal => "conceal"
    | .strike => "strike"
    | .doubleUnderline => "underline2"
    | .frame => "frame"
    | .encircle => "encircle"
    | .overline => "overline"
  find_word := by intro a; cases a <;> rfl

/-- The effects that have a short word. -/
def Effect.ofShortWord? : String → Option Effect
  | "b" => some .bold
  | "d" => some .dim
  | "i" => some .italic
  | "u" => some .underline
  | "r" => some .reverse
  | "c" => some .conceal
  | "s" => some .strike
  | "uu" => some .doubleUnderline
  | "o" => some .overline
  | _ => none

/-- The effect of a word, long or short. -/
def Effect.ofWord? (word : String) : Option Effect :=
  (Vocabulary.ofWord? word).or (ofShortWord? word)

/-- A style: the effects that it switches on or off, newest first, its colours and its link. -/
structure Style where
  switches : List (Effect × Bool) := []
  color? : Option String := none
  background? : Option String := none
  link? : Option String := none
  deriving DecidableEq, Repr

namespace Style

/-- A style with an effect switched on or off. -/
def switch (s : Style) (effect : Effect) (isOn : Bool) : Style :=
  { s with switches := (effect, isOn) :: s.switches }

/-- Reads the words of a style; a later word wins over an earlier one. -/
def readWords (s : Style) : List String → Except Fault Style
  | [] => .ok s
  | first :: rest =>
    match Text.lower first, rest with
    | "on", color :: rest =>
      match Color.read color with
      | .ok color => readWords { s with background? := some color } rest
      | .error fault => .error fault
    | "not", word :: rest =>
      match Effect.ofWord? word with
      | some effect => readWords (s.switch effect false) rest
      | none => .error .unknown
    | "link", target :: rest => readWords { s with link? := some target } rest
    | "on", [] | "not", [] | "link", [] => .error .unknown
    | word, rest =>
      match Effect.ofWord? word with
      | some effect => readWords (s.switch effect true) rest
      | none =>
        match Color.read word with
        | .ok color => readWords { s with color? := some color } rest
        | .error fault => .error fault

/-- Reads a style. -/
def read (definition : String) : Except Fault Style :=
  if Text.trim definition = "none" then .ok {} else readWords {} (Text.words definition)

/-- Whether a style breaks off where a number is needed. -/
def breaksOff (definition : String) : Bool :=
  match read definition with
  | .error .malformed => true
  | _ => false

/-- The words of an effect that is switched on or off. -/
def switchWords (s : Style) (effect : Effect) : List String :=
  match s.switches.lookup effect with
  | some true => [word effect]
  | some false => ["not", word effect]
  | none => []

/-- A style in its own words. -/
def text (s : Style) : String :=
  let words := (Vocabulary.all : List Effect).flatMap s.switchWords ++ s.color?.toList ++
    s.background?.toList.flatMap (fun color => ["on", color]) ++
    s.link?.toList.flatMap fun target => ["link", target]
  if words.isEmpty then "none" else " ".intercalate words

/-- The text by which a style is compared; one that means nothing is compared in lower case. -/
def normalize (definition : String) : Except Fault String :=
  match read definition with
  | .ok s => .ok s.text
  | .error .unknown => .ok (Text.lower (Text.trim definition))
  | .error .malformed => .error .malformed

end Style

end ScopeAlgebra
