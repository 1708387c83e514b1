import ScopeAlgebra.Catalog.Provider
import ScopeAlgebra.Catalog.Reference
import ScopeAlgebra.Catalog.Registry
import ScopeAlgebra.Text.Lowercase
import ScopeAlgebra.Workspace.Modules
import ScopeAlgebra.Workspace.Scopes

/-!
# The families of the catalog

Records come from four families: the predefined scopes of the workspace, the scopes of providers,
the named scopes of holders and the scopes of modules.
-/

namespace ScopeAlgebra

/-- Records to register, and what went wrong on making them. -/
structure Contribution where
  records : List Record := []
  diagnostics : Diagnostics := []

/-- Both contributions, one after the other. -/
def Contribution.append (a b : Contribution) : Contribution :=
  ⟨a.records ++ b.records, a.diagnostics ++ b.diagnostics⟩

namespace Catalog

/-- The provider id of extra presets. -/
def predefinedProviderId : String := "predefined"

/-- The record of a standard scope. -/
def standardRecord (scope : StandardScope) (predicate : Predicate) : Record :=
  { item := {
      refId := RefId.standard (word scope), displayName := predicate.displayName, kind := .standard
      shape := predicate.shape, serializationId? := some (word scope)
      requiresInput := scope = .currentFile || predicate.shape = .snapshot
      unstable := scope.isUnstable }
    predicate }

/-- The record of a scope that a provider contributes. -/
def providerRecord (providerId : String) (unstable : Bool) (predicate : Predicate) : Record :=
  { item := {
      refId := RefId.provider providerId predicate.displayName predicate.implementation
      displayName := predicate.displayName, kind := .provider, shape := predicate.shape
      requiresInput := predicate.shape = .snapshot, unstable
      providerId? := some providerId }
    predicate }

/-- The record of a predefined scope, which is standard when its name is that of a standard
scope. -/
def predefinedRecord (predicate : Predicate) : Record :=
  match StandardScope.ofDisplayName? predicate.displayName with
  | some scope => standardRecord scope predicate
  | none => providerRecord predefinedProviderId false predicate

/-- The predefined scopes of a workspace. -/
def standardFamily (ws : Workspace) : Contribution := ⟨ws.predefinedScopes.map predefinedRecord, []⟩

/-- The scopes of one provider. -/
def ofProvider (ws : Workspace) (p : Provider) : Except String Contribution := do
  let (scopes, diagnostics) ← p.collect ws
  return ⟨scopes.map (providerRecord p.id true), diagnostics⟩

/-- The scopes of providers, one provider after the other. -/
def providerFamily (ws : Workspace) : List Provider → Except String Contribution
  | [] => .ok {}
  | p :: rest => do
    let first ← ofProvider ws p
    let more ← providerFamily ws rest
    return first.append more

/-- The record of a named scope with a pattern. -/
def namedRecord (holder : Holder) (scope : NamedScope) (predicate : Predicate) : Record :=
  { item := {
      refId := RefId.named holder.id scope.name, displayName := scope.displayName
      kind := .namedPattern, shape := .global
      scopeName? := some scope.name, holderId? := some holder.id }
    predicate }

/-- The text of the note that a named scope is left out. -/
def skippedMessage (holder : Holder) (scope : NamedScope) (e : PatternError) : String :=
  "Named scope '" ++ scope.name ++ "' in holder '" ++ holder.id ++ "' skipped: " ++ e.message

/-- What one named scope contributes: nothing without a pattern, a note when it cannot be read. -/
def ofNamedScope (holder : Holder) (scope : NamedScope) : Contribution :=
  match scope.pattern? with
  | none => {}
  | some text =>
    match Workspace.patternScope text (some scope.displayName) with
    | .ok predicate => ⟨[namedRecord holder scope predicate], []⟩
    | .error e => ⟨[], [skippedMessage holder scope e]⟩

/-- The named scopes of all holders. -/
def namedFamily (ws : Workspace) : Contribution :=
  let parts := ws.holders.flatMap fun holder => holder.scopes.map (ofNamedScope holder)
  ⟨parts.flatMap (·.records), parts.flatMap (·.diagnostics)⟩

/-- The record of a module's scope in one flavor. -/
def moduleRecord (ws : Workspace) (m : Module) (flavor : ModuleFlavor) : Record :=
  { item := {
      refId := RefId.module m.name flavor, displayName := Workspace.moduleScopeName m flavor
      kind := .module, shape := .global
      moduleName? := some m.name, flavor? := some flavor }
    predicate := ws.moduleScope m flavor }

/-- The modules of a workspace by name in lower case, equal names in order of declaration. -/
def sortedModules (ws : Workspace) : List Module :=
  let keyed := ws.modules.map fun m => (Text.lower m.name, m)
  (keyed.mergeSort fun a b => decide (a.1 ≤ b.1)).map (·.2)

/-- The scopes of all modules in all flavors. -/
def moduleFamily (ws : Workspace) : Contribution :=
  ⟨(sortedModules ws).flatMap fun m =>
    (Vocabulary.all : List ModuleFlavor).map (moduleRecord ws m), []⟩

/-- What a family contributes. -/
def ofFamily (ws : Workspace) (providers : List Provider) :
    CatalogFamily → Except String Contribution
  | .standard => .ok (standardFamily ws)
  | .provider => providerFamily ws providers
  | .named => .ok (namedFamily ws)
  | .module => .ok (moduleFamily ws)

/-- What the families contribute, one after the other. -/
def ofFamilies (ws : Workspace) (providers : List Provider) :
    List CatalogFamily → Except String Contribution
  | [] => .ok {}
  | family :: rest => do
    let first ← ofFamily ws providers family
    let more ← ofFamilies ws providers rest
    return first.append more

/-- The families in the given order, followed by those that it leaves out. -/
def completeOrder (order : List CatalogFamily) : List CatalogFamily :=
  (order ++ ({} : Settings).familyOrder).eraseDups

end Catalog

end ScopeAlgebra
