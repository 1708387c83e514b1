/-!
# Tokens of a document

A document is a list of tokens: marks of structure, of which some follow from indentation alone, the
properties of nodes, and scalars.
-/

namespace ScopeAlgebra.Yaml

/-- A line that tells how a document is to be read. -/
inductive Directive where
  | version (major : Nat)
  | tag (handle head : String)
  | other
  deriving DecidableEq, Repr

/-- The brackets around sequences and mappings. -/
inductive Bracket where
  | square
  | curly
  deriving DecidableEq, Repr

/-- How a scalar is written. A quoted one may hold half a surrogate pair, which makes it
ill-formed. -/
inductive Style where
  | plain
  | quoted
  | illFormed
  deriving DecidableEq, Repr

/-- A token. -/
inductive Token where
  | directive (d : Directive)
  | documentStart
  | documentEnd
  | sequenceStart
  | mappingStart
  | blockEnd
  | opening (b : Bracket)
  | closing (b : Bracket)
  | dash
  | comma
  | key
  | value
  | alias (name : String)
  | anchor (name : String)
  | tag (handle? : Option String) (suffix : String)
  | scalar (style : Style) (text : String)
  deriving DecidableEq, Repr

end ScopeAlgebra.Yaml
