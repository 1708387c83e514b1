import ScopeAlgebra.Atom
import ScopeAlgebra.Diagnostics
import ScopeAlgebra.Shape

/-!
# Catalog items

An item is the public description of one scope of the catalog.
-/

namespace ScopeAlgebra

/-- The description of one scope of the catalog. -/
structure Item where
  refId : String
  displayName : String
  kind : AtomKind
  shape : Shape
  serializationId? : Option String := none
  requiresInput : Bool := false
  unstable : Bool := false
  moduleName? : Option String := none
  flavor? : Option ModuleFlavor := none
  scopeName? : Option String := none
  holderId? : Option String := none
  providerId? : Option String := none
  deriving DecidableEq, Repr, Inhabited

/-- Items together with what went wrong on collecting them. -/
structure Listing where
  items : List Item
  diagnostics : Diagnostics
  deriving DecidableEq, Repr

end ScopeAlgebra
