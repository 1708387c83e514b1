import ScopeAlgebra.Catalog.Item
import ScopeAlgebra.Wire.Atom

/-!
# Catalog items as JSON

Items and listings are written with every field; items are read back.
-/

namespace ScopeAlgebra

open Schema

namespace Item

/-- The fields of an item. -/
def toJson (i : Item) : Json := .object [
  ("scope_ref_id", .string i.refId),
  ("display_name", .string i.displayName),
  ("kind", .ofMember i.kind),
  ("shape", .ofMember i.shape),
  ("serialization_id", .optionalString i.serializationId?),
  ("requires_user_input", .bool i.requiresInput),
  ("unstable", .bool i.unstable),
  ("module_name", .optionalString i.moduleName?),
  ("module_flavor", .ofMember? i.flavor?),
  ("named_scope_name", .optionalString i.scopeName?),
  ("named_scope_holder_id", .optionalString i.holderId?),
  ("provider_id", .optionalString i.providerId?)]

/-- Reads an item from the fields of an object. -/
def ofFields (fields : Json.Fields) : Checked Item :=
  let optionalText (name : String) := optional fields name none (nullable text)
  Checked.ok Item.mk
    |>.ap (required fields "scope_ref_id" text)
    |>.ap (required fields "display_name" text)
    |>.ap (required fields "kind" (member AtomKind))
    |>.ap (required fields "shape" (member Shape))
    |>.ap (optionalText "serialization_id")
    |>.ap (optional fields "requires_user_input" false boolean)
    |>.ap (optional fields "unstable" false boolean)
    |>.ap (optionalText "module_name")
    |>.ap (optional fields "module_flavor" none (nullable (member ModuleFlavor)))
    |>.ap (optionalText "named_scope_name")
    |>.ap (optionalText "named_scope_holder_id")
    |>.ap (optionalText "provider_id")

/-- Reads an item. -/
def ofJson : Reader Item := model .wire "CatalogItem" ofFields

end Item

/-- The fields of a listing. -/
def Listing.toJson (l : Listing) : Json := .object [
  ("items", .array (l.items.map Item.toJson)),
  ("diagnostics", .strings l.diagnostics)]

end ScopeAlgebra
