import ScopeAlgebra.Engine.Intent
import ScopeAlgebra.Engine.Membership
import ScopeAlgebra.Wire.Item

/-!
# Answers as JSON

The answers of the engine, written with every field.
-/

namespace ScopeAlgebra

/-- The fields of a pattern's verdict. -/
def PatternVerdict.toJson (v : PatternVerdict) : Json := .object [
  ("valid", .bool v.isValid),
  ("normalized_pattern_text", .optionalString v.canonical?),
  ("diagnostics", .strings v.diagnostics)]

/-- The fields of a listing for an intent. -/
def IntentListing.toJson (l : IntentListing) : Json := .object [
  ("intent", .ofMember l.intent),
  ("recommended_scope_ref_id", .optionalString l.recommended?),
  ("items", .array (l.items.map Item.toJson)),
  ("diagnostics", .strings l.diagnostics)]

/-- The fields of an answer on one file. -/
def FileAnswer.toJson (a : FileAnswer) : Json := .object [
  ("file_url", .string a.url),
  ("matches", .bool a.isMember),
  ("scope_display_name", .string a.displayName),
  ("shape", .ofMember a.shape),
  ("diagnostics", .strings a.diagnostics)]

/-- The fields of an answer on many files. -/
def FilterAnswer.toJson (a : FilterAnswer) : Json := .object [
  ("scope_display_name", .string a.displayName),
  ("shape", .ofMember a.shape),
  ("matched_file_urls", .strings a.matched),
  ("excluded_file_urls", .strings a.excluded),
  ("missing_file_urls", .strings a.missing),
  ("diagnostics", .strings a.diagnostics)]

end ScopeAlgebra
