import ScopeAlgebra.Json.Binary
import ScopeAlgebra.Schema.Checked
import ScopeAlgebra.Schema.Integer
import ScopeAlgebra.Vocabulary

/-!
# Readers

Readers for texts, truth values, integers, words of a vocabulary, lists and optional values, and for
the fields of an object. Truth values and integers are also read from numbers and texts that clearly
stand for one; texts are read from texts only.
-/

namespace ScopeAlgebra.Schema

/-- Reads a text. -/
def text : Reader String
  | .string s => .ok s
  | .special .illFormedText => .fail .illFormedText
  | _ => .fail .notText

/-- Reads a text that is not empty. -/
def nonEmptyText : Reader String := fun json =>
  (text json).bind fun s => if s.isEmpty then Checked.fail .tooShort else .ok s

/-- Texts that stand for true, in lower case. -/
def trueTexts : List String := ["1", "on", "t", "true", "y", "yes"]

/-- Texts that stand for false, in lower case. -/
def falseTexts : List String := ["0", "off", "f", "false", "n", "no"]

/-- Reads a truth value from a text, in either case of its ASCII letters. -/
def booleanOfText (s : String) : Checked Bool :=
  let folded := String.ofList (s.toList.map Char.toLower)
  if trueTexts.contains folded then .ok true
  else if falseTexts.contains folded then .ok false
  else .fail .unreadableBoolean

/-- The first integer beyond the words of 64 bits with a sign. -/
def wordBound : Int := 9223372036854775808

/-- Reads a truth value from an integer; one that does not fit a word is not looked at. -/
def booleanOfInt (n : Int) : Checked Bool :=
  if n = 0 then .ok false
  else if n = 1 then .ok true
  else if -wordBound ≤ n && n < wordBound then .fail .unreadableBoolean
  else .fail .notBoolean

/-- Reads an integer from a decimal number, which has to be whole and to fit a word. -/
def integerOfDecimal (mantissa exponent : Int) : Checked Int :=
  match Json.nearest mantissa exponent with
  | .whole n => if -wordBound < n && n < wordBound then .ok n else .fail .oversizedInteger
  | .fractional => .fail .fractional
  | .infinite => .fail .notFinite

/-- Reads a truth value. -/
def boolean : Reader Bool
  | .bool b => .ok b
  | .int n => booleanOfInt n
  | .decimal mantissa exponent =>
    match integerOfDecimal mantissa exponent with
    | .ok n => booleanOfInt n
    | .error _ => .fail .notBoolean
  | .string s => booleanOfText s
  | _ => .fail .notBoolean

/-- Reads an integer. -/
def integer : Reader Int
  | .int n => .ok n
  | .bool b => .ok (if b then 1 else 0)
  | .decimal mantissa exponent => integerOfDecimal mantissa exponent
  | .special (.number _) => .fail .notFinite
  | .string s => integerOfText s
  | _ => .fail .notInteger

/-- Reads a word of a vocabulary. -/
def member (α : Type) [Vocabulary α] : Reader α
  | .string s =>
    match Vocabulary.ofWord? s with
    | some a => .ok a
    | none => .fail (.notOneOf ((Vocabulary.all : List α).map word))
  | _ => .fail (.notOneOf ((Vocabulary.all : List α).map word))

/-- Reads null as nothing and all else with the given reader. -/
def nullable {α : Type} (read : Reader α) : Reader (Option α)
  | .null => .ok none
  | json => (read json).map some

/-- Reads an array. -/
def listOf {α : Type} (intake : Intake) (read : Reader α) : Reader (List α)
  | .array items => Checked.eachFrom read 0 items
  | _ => .fail (.notList intake)

/-- Reads the fields of an object that stands for a model. -/
def model {α : Type} (intake : Intake) (name : String) (read : Json.Fields → Checked α) : Reader α
  | .object fields => read fields
  | _ => .fail (.notModel intake name)

/-- Reads a field that has to be there. -/
def required {α : Type} (fields : Json.Fields) (name : String) (read : Reader α) : Checked α :=
  Checked.inside name <|
    match Json.Fields.get? fields name with
    | some json => read json
    | none => .fail .missing

/-- Reads a field that has a default. -/
def optional {α : Type} (fields : Json.Fields) (name : String) (default : α) (read : Reader α) :
    Checked α :=
  match Json.Fields.get? fields name with
  | some json => Checked.inside name (read json)
  | none => .ok default

end ScopeAlgebra.Schema
