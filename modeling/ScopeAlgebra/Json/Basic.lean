import ScopeAlgebra.Json.Binary

/-!
# JSON values

Numbers written without fraction and exponent are integers of any size; all others keep their
decimal mantissa and exponent. Objects keep the order of their fields and hold each name once. Some
values go beyond those that every text of JSON may hold: they are special.
-/

namespace ScopeAlgebra

/-- A special value: infinity or what is no number, by its word; a date; a text with half a
surrogate pair. -/
inductive SpecialValue where
  | number (word : String)
  | date (text : String)
  | illFormedText
  deriving DecidableEq, Repr

/-- A JSON value. -/
inductive Json where
  | null
  | bool (value : Bool)
  | int (value : Int)
  | decimal (mantissa exponent : Int)
  | special (value : SpecialValue)
  | string (value : String)
  | array (items : List Json)
  | object (fields : List (String × Json))
  deriving Inhabited

namespace Json

/-- The fields of an object, by name. -/
abbrev Fields := List (String × Json)

/-- The value of a field. -/
def Fields.get? (fields : Fields) (name : String) : Option Json :=
  (fields.find? (·.1 = name)).map (·.2)

/-- Sets a field: in place when the name is there, else at the end. -/
def Fields.put (fields : Fields) (name : String) (value : Json) : Fields :=
  if fields.any (·.1 = name) then
    fields.map fun field => if field.1 = name then (name, value) else field
  else fields ++ [(name, value)]

/-- The value of a field of an object. -/
def get? : Json → String → Option Json
  | .object fields, name => Fields.get? fields name
  | _, _ => none

/-- Whether a value counts as empty: null, false, zero, or a text, array or object with nothing in
it. -/
def isEmpty : Json → Bool
  | .null => true
  | .bool b => !b
  | .int n => n == 0
  | .decimal mantissa exponent => nearest mantissa exponent == .whole 0
  | .special _ => false
  | .string s => s.isEmpty
  | .array items => items.isEmpty
  | .object fields => fields.isEmpty

/-- An array of texts. -/
def strings (texts : List String) : Json := .array (texts.map .string)

/-- A text or null. -/
def optionalString : Option String → Json
  | some s => .string s
  | none => .null

end Json

end ScopeAlgebra
