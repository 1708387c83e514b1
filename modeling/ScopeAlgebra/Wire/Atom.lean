import ScopeAlgebra.Atom
import ScopeAlgebra.Schema.Field

/-!
# Atoms as JSON

`Atom.toJson` writes every field of an atom and `Atom.ofJson` reads them back; fields that are left
out have their defaults, unknown fields are ignored.
-/

namespace ScopeAlgebra

namespace Json

/-- The word of a vocabulary's member. -/
def ofMember {α : Type} [Vocabulary α] (a : α) : Json := .string (word a)

/-- The word of a member, or null. -/
def ofMember? {α : Type} [Vocabulary α] : Option α → Json
  | some a => ofMember a
  | none => .null

end Json

namespace Atom

/-- The fields of an atom, in order. -/
def toJson (a : Atom) : Json := .object [
  ("atom_id", .string a.id),
  ("kind", .ofMember a.kind),
  ("scope_ref_id", .optionalString a.refId?),
  ("standard_scope_id", .optionalString a.standardId?),
  ("module_name", .optionalString a.moduleName?),
  ("module_flavor", .ofMember? a.flavor?),
  ("named_scope_name", .optionalString a.scopeName?),
  ("named_scope_holder_id", .optionalString a.holderId?),
  ("pattern_text", .optionalString a.pattern?),
  ("directory_url", .optionalString a.directoryUrl?),
  ("directory_recursive", .bool a.recursive),
  ("file_urls", .strings a.fileUrls),
  ("provider_id", .optionalString a.providerId?),
  ("on_resolve_failure", .ofMember? a.onFailure?)]

open Schema in
/-- Reads an atom from the fields of an object. -/
def ofFields (fields : Json.Fields) : Checked Atom :=
  let optionalText (name : String) := optional fields name none (nullable text)
  Checked.ok Atom.mk
    |>.ap (required fields "atom_id" nonEmptyText)
    |>.ap (optional fields "kind" .catalogRef (member AtomKind))
    |>.ap (optionalText "scope_ref_id")
    |>.ap (optionalText "standard_scope_id")
    |>.ap (optionalText "module_name")
    |>.ap (optional fields "module_flavor" none (nullable (member ModuleFlavor)))
    |>.ap (optionalText "named_scope_name")
    |>.ap (optionalText "named_scope_holder_id")
    |>.ap (optionalText "pattern_text")
    |>.ap (optionalText "directory_url")
    |>.ap (optional fields "directory_recursive" true boolean)
    |>.ap (optional fields "file_urls" [] (listOf .wire text))
    |>.ap (optionalText "provider_id")
    |>.ap (optional fields "on_resolve_failure" none (nullable (member FailureMode)))

/-- Reads an atom. -/
def ofJson : Reader Atom := Schema.model .wire "ScopeAtom" ofFields

end Atom

end ScopeAlgebra
