import ScopeAlgebra.Yaml.Token

/-!
# Nodes of a document

A document is a tree of scalars, sequences and mappings, each of which may have a tag. Aliases are
replaced by the nodes that they stand for.
-/

namespace ScopeAlgebra.Yaml

/-- A node; the tag says what it stands for when it does not follow from how the node is written. -/
inductive Node where
  | scalar (tag? : Option String) (style : Style) (text : String)
  | sequence (tag? : Option String) (items : List Node)
  | mapping (tag? : Option String) (fields : List (Node × Node))
  deriving Inhabited

/-- The node where nothing is written. -/
def Node.empty : Node := .scalar none .plain ""

end ScopeAlgebra.Yaml
