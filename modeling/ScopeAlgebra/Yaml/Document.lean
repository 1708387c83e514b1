import ScopeAlgebra.Text.Lines
import ScopeAlgebra.Yaml.Node.Parser
import ScopeAlgebra.Yaml.Scalar
import ScopeAlgebra.Yaml.Token.Lexer

/-!
# Reading documents

`Yaml.parse?` is the value of a text that holds one document at most. A mapping names each of its
keys once; the fields of other mappings may be merged into it. Keys that are no texts are left out.
-/

namespace ScopeAlgebra.Yaml

/-! ## Merging -/

/-- Whether a node is the key for merging. -/
def Node.isMerge : Node → Bool
  | .scalar none .plain text => text = mergeWord
  | .scalar (some tag) _ _ => tag = tagHead ++ "merge"
  | _ => false

/-- A key of a mapping; the word that stands for nothing by itself is a text there. -/
def Node.asKey : Node → Node
  | .scalar none .plain text => .scalar none (if text = valueWord then .quoted else .plain) text
  | node => node

/-- The fields of a mapping: those merged into it and its own. -/
structure MergedFields where
  merged : List (Node × Node) := []
  own : List (Node × Node) := []

/-- All fields, the merged ones first. -/
def MergedFields.all (m : MergedFields) : List (Node × Node) := m.merged ++ m.own

/-- Splits fields into those that are merged and the others, behind those split before (own ones
last first). Fields are merged once; `fieldsOf?` says which fields are merged from a node. -/
def splitMerged? (fieldsOf? : Node → Option (List (Node × Node))) (m : MergedFields) :
    List (Node × Node) → Option MergedFields
  | [] => some { m with own := m.own.reverse }
  | (key, value) :: rest =>
    if !key.isMerge then splitMerged? fieldsOf? { m with own := (key.asKey, value) :: m.own } rest
    else if m.merged.isEmpty then
      (fieldsOf? value).bind fun merged => splitMerged? fieldsOf? { m with merged } rest
    else none

/-- The fields that are merged from mappings, of which the first counts most. -/
def joinMerged? (fieldsOf? : Node → Option (List (Node × Node))) :
    List Node → Option (List (Node × Node))
  | [] => some []
  | .mapping tag? fields :: rest => do
    let first ← fieldsOf? (.mapping tag? fields)
    return (← joinMerged? fieldsOf? rest) ++ first
  | _ => none

/-- The fields that are merged from a mapping or from a sequence of mappings, nested in at most
`steps` steps. -/
def fieldsToMerge? : Nat → Node → Option (List (Node × Node))
  | 0, _ => none
  | steps + 1, .mapping _ fields =>
    (splitMerged? (fieldsToMerge? steps) {} fields).map MergedFields.all
  | steps + 1, .sequence _ items => joinMerged? (fieldsToMerge? steps) items
  | _, .scalar _ _ _ => none

/-! ## Values -/

/-- What a scalar stands for; nothing when it cannot stand for anything. -/
def scalarValue? (tag? : Option String) (style : Style) (text : String) : Option Json :=
  match tag?, style with
  | none, .plain => plainValue? text
  | none, .quoted => some (.string text)
  | none, .illFormed => some (.special .illFormedText)
  | some tag, .illFormed => taggedValue? tag none
  | some tag, _ => taggedValue? tag (some text)

/-- The whole number that a key is. Truth values count as zero and one. -/
def keyNumber? : Json → Option Int
  | .bool b => some (if b then 1 else 0)
  | .int n => some n
  | .decimal mantissa exponent =>
    match Json.nearest mantissa exponent with
    | .whole n => some n
    | _ => none
  | _ => none

/-- Whether two keys are the same. -/
def isSameKey (a b : Json) : Bool :=
  match a, b with
  | .string s, .string t => s = t
  | .string _, _ | _, .string _ => false
  | .null, .null => true
  | .special (.date s), .special (.date t) => s = t
  | a, b =>
    match keyNumber? a, keyNumber? b with
    | some m, some n => m = n
    | none, none =>
      match a, b with
      | .decimal m e, .decimal n f => m = n && e = f
      | _, _ => false
    | _, _ => false

/-- The fields whose keys are texts. -/
def textFields (fields : List (Json × Json)) : Json.Fields :=
  fields.filterMap fun (key, value) =>
    match key with
    | .string name => some (name, value)
    | _ => none

/-- Whether a key can be compared with others. -/
def isComparable : Json → Bool
  | .object _ => false
  | .array items => items.all fun item =>
    match item with
    | .object _ | .array _ => false
    | _ => true
  | _ => true

/-- The values of items, behind those before (last one first). -/
def itemValues? (valueOf? : Node → Option Json) (before : List Json) :
    List Node → Option (List Json)
  | [] => some before.reverse
  | item :: rest => (valueOf? item).bind fun value => itemValues? valueOf? (value :: before) rest

/-- The keys and values of fields, behind those before (last one first). A key may only be repeated
when the fields need not be distinct; the last value counts then. -/
def fieldValues? (valueOf? : Node → Option Json) (areDistinct : Bool)
    (before : List (Json × Json)) : List (Node × Node) → Option (List (Json × Json))
  | [] => some before.reverse
  | (key, value) :: rest =>
    match valueOf? key, valueOf? value with
    | some key, some value =>
      if !isComparable key || (areDistinct && before.any fun field => isSameKey field.1 key) then
        none
      else
        let before :=
          if areDistinct then before else before.filter fun field => !isSameKey field.1 key
        fieldValues? valueOf? areDistinct ((key, value) :: before) rest
    | _, _ => none

/-- The value of a node, in at most `steps` nested steps. Keys are distinct unless fields are
merged. -/
def value? : Nat → Node → Option Json
  | 0, _ => none
  | _ + 1, .scalar tag? style text => scalarValue? tag? style text
  | steps + 1, .sequence tag? items =>
    if tag?.all (· = tagHead ++ "seq") then
      (itemValues? (value? steps) [] items).map Json.array
    else none
  | steps + 1, .mapping tag? fields =>
    if tag?.all (· = tagHead ++ "map") then do
      let m ← splitMerged? (fieldsToMerge? steps) {} fields
      let found ← fieldValues? (value? steps) m.merged.isEmpty [] m.all
      return .object (textFields found)
    else none

/-- The value of a text that holds one document at most; null stands for a text without any. -/
def parse? (text : String) : Option Json := do
  let tokens ← tokensOf? (Text.withLineFeeds text.toList)
  value? (tokens.length + 2) (← nodeOf? tokens)

end ScopeAlgebra.Yaml
