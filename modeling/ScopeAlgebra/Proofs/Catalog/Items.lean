import ScopeAlgebra.Proofs.Catalog.Consistency

/-!
# What items say

The item of a record shows the name and the shape of the record's predicate, and it has no empty
text among the names that it carries (`Origin.described`). Its reference id is written out of raw
names, so it may end in white space, and then it is not found again (`Origin.present?_refId_iff`).
-/

namespace ScopeAlgebra

/-- The names that an item carries along. -/
def Item.names (item : Item) : List (Option String) :=
  [item.serializationId?, item.moduleName?, item.scopeName?, item.holderId?, item.providerId?]

/-- An item that tells the truth about its record and carries no empty name. -/
structure Record.Described (r : Record) : Prop where
  displayName_eq : r.item.displayName = r.predicate.displayName
  shape_eq : r.item.shape = r.predicate.shape
  names : some "" ∉ r.item.names

/-- The implementation of a provider has a name. -/
theorem Provider.id_ne_empty {p : Provider} (h : p.implementation ≠ "") : p.id ≠ "" := by
  unfold Provider.id
  cases hid : Text.present? p.declaredId? with
  | none => exact h
  | some id => exact Text.ne_empty_of_present? hid

namespace Catalog

variable {ws : Workspace} {providers : List Provider} {r : Record}

/-! ## Names -/

/-- A standard record carries no empty name. -/
theorem names_standardRecord (scope : StandardScope) (p : Predicate) :
    some "" ∉ (standardRecord scope p).item.names := by
  cases scope <;> simp [standardRecord, Item.names, word]

/-- A record for a provider's scope carries no empty name when the provider has an id. -/
theorem names_providerRecord {providerId : String} (h : providerId ≠ "") (unstable : Bool)
    (p : Predicate) : some "" ∉ (providerRecord providerId unstable p).item.names := by
  simpa [providerRecord, Item.names] using h.symm

/-- Where everything that is named has a name, items carry no empty one. -/
theorem Origin.names (h : Origin ws providers r) (hws : ws.Labelled)
    (hproviders : ∀ p ∈ providers, p.implementation ≠ "") : some "" ∉ r.item.names := by
  -- What an item carries are names that the workspace gives, or that the program itself gives to
  -- standard scopes.
  cases h with
  | @predefined p hp =>
    unfold predefinedRecord
    split
    · exact names_standardRecord _ p
    · exact names_providerRecord (by decide) false p
  | contributed hprovider hcollect hp =>
    exact names_providerRecord (Provider.id_ne_empty (hproviders _ hprovider)) true _
  | named hholder hscope htext hp =>
    obtain ⟨hid, hscopes⟩ := hws.holders _ hholder
    simp [namedRecord, Item.names, Ne.symm hid, Ne.symm (hscopes _ hscope)]
  | module hm flavor => simp [moduleRecord, Item.names, Ne.symm (hws.modules _ hm)]

/-- Where everything that is named has a name, items describe their records. -/
theorem Origin.described (h : Origin ws providers r) (hws : ws.Labelled)
    (hproviders : ∀ p ∈ providers, p.implementation ≠ "") : r.Described where
  displayName_eq := (h.consistent hws).displayName_eq
  shape_eq := (h.consistent hws).shape_eq
  names := h.names hws hproviders

/-! ## Reference ids -/

/-- The reference id of a record is found again unless the record is that of a named scope and the
scope's name ends in white space. -/
theorem Origin.present?_refId_iff (h : Origin ws providers r) :
    Text.present? (some r.refId) = some r.refId ↔
      ∀ name ∈ r.item.scopeName?, ¬ Text.EndsBlank name := by
  -- An id ends in the word of a scope, in a digest, in a scope's name or in the word of a flavor.
  rcases h.cases_record with ⟨scope, p, rfl⟩ | ⟨providerId, unstable, p, rfl⟩ |
    ⟨holder, -, scope, -, text, p, -, -, rfl⟩ | ⟨m, -, flavor, rfl⟩
  · have hword : Text.present? (some (word scope)) = some (word scope) := by cases scope <;> decide
    exact iff_of_true (RefId.present?_standard hword) (by simp [standardRecord])
  · exact iff_of_true RefId.present?_provider (by simp [providerRecord])
  · have hnames : (∀ name ∈ (namedRecord holder scope p).item.scopeName?, ¬ Text.EndsBlank name) ↔
        ¬ Text.EndsBlank scope.name := by simp [namedRecord]
    rw [hnames]
    exact RefId.present?_named_eq_self_iff
  · exact iff_of_true RefId.present?_module (by simp [moduleRecord])

end Catalog

end ScopeAlgebra
