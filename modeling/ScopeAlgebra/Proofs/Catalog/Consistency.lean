import ScopeAlgebra.Proofs.Catalog.Providers
import ScopeAlgebra.Proofs.Manifest

/-!
# Consistent records

The items of a catalog are written beside their predicates, by each family in its own way, and their
reference ids beside the metadata. They fit all the same: an item shows the name and the shape of
its predicate, hides what needs input, and its metadata determine its id (`Record.Consistent`).
Registration passes records on as they are, so what every origin gives holds of the whole catalog
(`build_consistent`).
-/

namespace ScopeAlgebra

/-- The reference id that the metadata of an item stand for, with the implementation behind it.
Kinds that no catalog lists have none. -/
def Item.derivedId? (item : Item) (implementation : String) : Option String :=
  match item.kind with
  | .standard => item.serializationId?.map RefId.standard
  | .module => item.moduleName?.bind fun name => item.flavor?.map (RefId.module name)
  | .namedPattern => item.holderId?.bind fun holderId => item.scopeName?.map (RefId.named holderId)
  | .provider =>
    item.providerId?.map fun providerId => RefId.provider providerId item.displayName implementation
  | .catalogRef | .adhocPattern | .directory | .fileSet => none

/-- A record of which the item fits the predicate and the reference id. -/
structure Record.Consistent (r : Record) : Prop where
  displayName_eq : r.item.displayName = r.predicate.displayName
  shape_eq : r.item.shape = r.predicate.shape
  requiresInput_of_snapshot : r.predicate.shape = .snapshot → r.item.requiresInput = true
  derivedId?_eq : r.item.derivedId? r.predicate.implementation = some r.refId

/-- Only the kinds of the four families have ids that follow from metadata. -/
theorem Record.Consistent.kind_mem {r : Record} (h : r.Consistent) :
    r.item.kind ∈ [AtomKind.standard, .module, .namedPattern, .provider] := by
  have hid := h.derivedId?_eq
  unfold Item.derivedId? at hid
  -- An ad-hoc kind would have no derived id, and every record has one.
  cases hkind : r.item.kind <;> rw [hkind] at hid <;> first | decide | contradiction

/-- A named scope is shown under some name when it has one. -/
theorem NamedScope.displayName_ne_empty {scope : NamedScope} (h : scope.name ≠ "") :
    scope.displayName ≠ "" := by
  unfold NamedScope.displayName
  split
  · split
    · exact h
    next hname => simpa [String.isEmpty_iff] using hname
  · exact h

/-- The predicate of a pattern is a filter that is shown under the given name. -/
theorem Workspace.displayName_of_patternScope {text name : String} {p : Predicate}
    (h : Workspace.patternScope text (some name) = .ok p) (hname : name ≠ "") :
    p.displayName = name ∧ p.shape = .global := by
  obtain ⟨parsed, -, hfilter⟩ := bind_eq_ok.mp h
  have hp : .filter (if name.isEmpty then parsed.render else name) parsed.selects = p :=
    Except.ok.inj hfilter
  have hempty : ¬ name.isEmpty = true := by simpa [String.isEmpty_iff] using hname
  rw [if_neg hempty] at hp
  subst hp
  exact ⟨rfl, rfl⟩

namespace Catalog

variable {ws : Workspace} {providers : List Provider} {r : Record}

/-! ## The families -/

/-- A standard record is consistent, whatever the preset behind it. -/
theorem consistent_standardRecord (scope : StandardScope) (p : Predicate) :
    (standardRecord scope p).Consistent where
  displayName_eq := rfl
  shape_eq := rfl
  requiresInput_of_snapshot hshape := by
    have hlocal : p.shape = .snapshot := hshape
    simp [standardRecord, hlocal]
  derivedId?_eq := rfl

/-- A record for a provider's scope is consistent, whatever the provider says of itself. -/
theorem consistent_providerRecord (providerId : String) (unstable : Bool) (p : Predicate) :
    (providerRecord providerId unstable p).Consistent where
  displayName_eq := rfl
  shape_eq := rfl
  requiresInput_of_snapshot hshape := decide_eq_true hshape
  derivedId?_eq := rfl

/-- A preset is listed as the standard scope that goes by its name, or as a scope of the provider of
presets. -/
theorem consistent_predefinedRecord (p : Predicate) : (predefinedRecord p).Consistent := by
  unfold predefinedRecord
  split
  · exact consistent_standardRecord _ p
  · exact consistent_providerRecord _ _ p

/-- The item of a named scope is written as global and under the scope's own name, and so is the
predicate that its pattern is compiled to, as long as the scope has a name. -/
theorem consistent_namedRecord {holder : Holder} {scope : NamedScope} {text : String}
    {p : Predicate} (hscope : scope.name ≠ "")
    (hp : Workspace.patternScope text (some scope.displayName) = .ok p) :
    (namedRecord holder scope p).Consistent := by
  obtain ⟨hname, hshape⟩ := Workspace.displayName_of_patternScope hp
    (NamedScope.displayName_ne_empty hscope)
  refine ⟨hname.symm, hshape.symm, fun hlocal => ?_, rfl⟩
  have hglobal : (namedRecord holder scope p).predicate.shape = .global := hshape
  rw [hglobal] at hlocal
  contradiction

/-- A module's record is consistent: its item and its predicate are written from the same module. -/
theorem consistent_moduleRecord (m : Module) (flavor : ModuleFlavor) :
    (moduleRecord ws m flavor).Consistent where
  displayName_eq := rfl
  shape_eq := rfl
  requiresInput_of_snapshot hshape := by contradiction
  derivedId?_eq := rfl

/-- Whatever a family contributes is consistent, in a workspace where everything that is named has a
name. -/
theorem Origin.consistent (h : Origin ws providers r) (hws : ws.Labelled) : r.Consistent := by
  -- Each family writes items in its own way; only named scopes can lack what their id is made of.
  cases h with
  | predefined hp => exact consistent_predefinedRecord _
  | contributed hprovider hcollect hp => exact consistent_providerRecord _ true _
  | named hholder hscope htext hp =>
    exact consistent_namedRecord ((hws.holders _ hholder).scopes _ hscope) hp
  | module hm flavor => exact consistent_moduleRecord _ flavor

/-! ## Snapshots -/

/-- In a workspace that comes from a manifest, with any presets beside, a snapshot finds each of its
records under the record's own reference id, every record is consistent, and no record is of an
ad-hoc kind or a bare reference. -/
theorem build_consistent (json : Json) (ws : Workspace) (presets : List Predicate)
    (providers : List Provider) (policy : CollisionPolicy) (order : List CatalogFamily)
    (hws : Workspace.ofManifest json = .ok ws)
    (hproviders : ∀ p ∈ providers, p.Completes { ws with extraPresets := presets }) :
    ∃ catalog,
      Snapshot.build { ws with extraPresets := presets } providers policy order = .ok catalog ∧
      ∀ r ∈ catalog.records, catalog.get? r.refId = some r ∧ r.Consistent ∧
        r.item.kind ∈ [AtomKind.standard, .module, .namedPattern, .provider] := by
  obtain ⟨hmodules, hholders⟩ := Workspace.labelled_of_ofManifest hws
  have hlabelled : { ws with extraPresets := presets }.Labelled := ⟨hmodules, hholders⟩
  obtain ⟨catalog, hbuild⟩ := exists_build_iff.mpr hproviders
  refine ⟨catalog, hbuild, fun r hr => ?_⟩
  have hconsistent : r.Consistent := (origin_of_mem_records hbuild hr).consistent hlabelled
  exact ⟨get?_of_mem_records hbuild hr, hconsistent, hconsistent.kind_mem⟩

/-- A manifest with a module and a current file. -/
def coreManifest : Json :=
  .object [("modules", .array [.string "core"]), ("current_file", .string "a")]

/-- The workspace that it describes. -/
def coreWorkspace : Workspace where
  files := []
  modules := [{ name := "core" }]
  currentFile? := some "file:///workspace/a"
  urls_nodup := List.nodup_nil
  names_nodup := List.nodup_singleton _

/-- A provider that goes by the provider id of presets, and lists a scope of its own. -/
def pinsProvider : Provider where
  implementation := "plugin.Pins"
  declaredId? := some "predefined"
  listScopes? := some fun _ => .offers [.scope 0 (.snapshot "Pins" ["b"])]

/-- With a local preset and a scope that takes over its id, the module's scope is listed and
consistent. -/
theorem build_consistent_core :
    Workspace.ofManifest coreManifest = .ok coreWorkspace ∧
      (∀ p ∈ [pinsProvider],
        p.Completes { coreWorkspace with extraPresets := [.snapshot "Pins" ["a"]] }) ∧
      ∃ catalog r,
        Snapshot.build { coreWorkspace with extraPresets := [.snapshot "Pins" ["a"]] }
          [pinsProvider] .lastWins [.module] = .ok catalog ∧
        r ∈ catalog.records ∧ r.refId = "module:core:module" ∧ r.Consistent := by
  have hmanifest : Workspace.ofManifest coreManifest = .ok coreWorkspace := rfl
  have hproviders : ∀ p ∈ [pinsProvider],
      p.Completes { coreWorkspace with extraPresets := [.snapshot "Pins" ["a"]] } := by
    simp [Provider.Completes, Provider.methods, pinsProvider]
  obtain ⟨catalog, hbuild, hrecords⟩ :=
    build_consistent coreManifest coreWorkspace [.snapshot "Pins" ["a"]]
      [pinsProvider] .lastWins [.module] hmanifest hproviders
  have hcore : { name := "core" } ∈ coreWorkspace.modules := List.mem_singleton_self _
  have hmem := (Registry.mem_of_get? (get?_module hbuild hcore .plain)).1
  exact ⟨hmanifest, hproviders, catalog, _, hbuild, hmem, rfl, (hrecords _ hmem).2.1⟩

end Catalog

end ScopeAlgebra
