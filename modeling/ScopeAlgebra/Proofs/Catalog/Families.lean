import Mathlib.Data.List.Nodup
import ScopeAlgebra.Catalog.Snapshot
import ScopeAlgebra.Proofs.Catalog.Reference
import ScopeAlgebra.Proofs.Catalog.Registry
import ScopeAlgebra.Proofs.Noted

/-!
# Where records come from

`Origin` lists the scopes that a workspace and its providers offer. A snapshot holds records of such
scopes only, and every one of them has its reference id taken, whatever the order of the families
and whichever record survives a collision. The family of a record can be told from its reference id.
-/

namespace ScopeAlgebra.Catalog

variable {ws : Workspace} {providers : List Provider}

/-- The records that a workspace and its providers offer. -/
inductive Origin (ws : Workspace) (providers : List Provider) : Record → Prop where
  | predefined {p : Predicate} (hp : p ∈ ws.predefinedScopes) :
    Origin ws providers (predefinedRecord p)
  | contributed {provider : Provider} {scopes : List Predicate} {diagnostics : Diagnostics}
    {p : Predicate} (hprovider : provider ∈ providers)
    (hcollect : provider.collect ws = .ok (scopes, diagnostics)) (hp : p ∈ scopes) :
    Origin ws providers (providerRecord provider.id true p)
  | named {holder : Holder} {scope : NamedScope} {text : String} {p : Predicate}
    (hholder : holder ∈ ws.holders) (hscope : scope ∈ holder.scopes)
    (htext : scope.pattern? = some text)
    (hp : Workspace.patternScope text (some scope.displayName) = .ok p) :
    Origin ws providers (namedRecord holder scope p)
  | module {m : Module} (hm : m ∈ ws.modules) (flavor : ModuleFlavor) :
    Origin ws providers (moduleRecord ws m flavor)

variable {r : Record} {all : Contribution}

/-! ## The families -/

/-- A named scope gives a record when it has a pattern that can be read. -/
theorem mem_ofNamedScope {holder : Holder} {scope : NamedScope} :
    r ∈ (ofNamedScope holder scope).records ↔ ∃ text p, scope.pattern? = some text ∧
      Workspace.patternScope text (some scope.displayName) = .ok p ∧
        namedRecord holder scope p = r := by
  unfold ofNamedScope
  cases scope.pattern? with
  | none => simp
  | some text =>
    cases h : Workspace.patternScope text (some scope.displayName) with
    | error e => simp [h]
    | ok p => simp [h, eq_comm]

/-- The records of named scopes are those of the scopes of all holders. -/
theorem mem_namedFamily : r ∈ (namedFamily ws).records ↔
    ∃ holder ∈ ws.holders, ∃ scope ∈ holder.scopes, r ∈ (ofNamedScope holder scope).records := by
  simp [namedFamily, and_assoc]

/-- The records of modules are those of all modules in all flavors. -/
theorem mem_moduleFamily :
    r ∈ (moduleFamily ws).records ↔ ∃ m ∈ ws.modules, ∃ flavor, moduleRecord ws m flavor = r := by
  have hsorted (m : Module) : m ∈ sortedModules ws ↔ m ∈ ws.modules := by simp [sortedModules]
  simp [moduleFamily, hsorted, Vocabulary.mem_all]

/-- Providers are collected from one after the other. -/
theorem providerFamily_cons_eq_ok {p : Provider} {rest : List Provider} :
    providerFamily ws (p :: rest) = .ok all ↔ ∃ scopes diagnostics more,
      p.collect ws = .ok (scopes, diagnostics) ∧ providerFamily ws rest = .ok more ∧
        Contribution.append ⟨scopes.map (providerRecord p.id true), diagnostics⟩ more = all := by
  constructor
  · intro h
    obtain ⟨first, hfirst, h⟩ := bind_eq_ok.mp h
    obtain ⟨more, hmore, h⟩ := bind_eq_ok.mp h
    obtain ⟨⟨scopes, diagnostics⟩, hcollect, hscopes⟩ := bind_eq_ok.mp hfirst
    cases hscopes
    exact ⟨scopes, diagnostics, more, hcollect, hmore, Except.ok.inj h⟩
  · rintro ⟨scopes, diagnostics, more, hcollect, hmore, rfl⟩
    exact bind_eq_ok.mpr ⟨_, bind_eq_ok.mpr ⟨_, hcollect, rfl⟩, bind_eq_ok.mpr ⟨more, hmore, rfl⟩⟩

/-- The records of providers are those of the scopes that they collect. -/
theorem mem_providerFamily (h : providerFamily ws providers = .ok all) : r ∈ all.records ↔
    ∃ provider ∈ providers, ∃ scopes diagnostics, provider.collect ws = .ok (scopes, diagnostics) ∧
      ∃ p ∈ scopes, providerRecord provider.id true p = r := by
  -- The providers are asked in turn, so the records are those of the first one and of the rest.
  induction providers generalizing all with
  | nil =>
    cases h
    simp
  | cons provider rest ih =>
    obtain ⟨scopes, diagnostics, more, hcollect, hmore, rfl⟩ := providerFamily_cons_eq_ok.mp h
    simp [Contribution.append, ih hmore, hcollect]

/-- Families contribute one after the other. -/
theorem ofFamilies_cons_eq_ok {family : CatalogFamily} {rest : List CatalogFamily} :
    ofFamilies ws providers (family :: rest) = .ok all ↔
      ∃ first more, ofFamily ws providers family = .ok first ∧
        ofFamilies ws providers rest = .ok more ∧ first.append more = all := by
  constructor
  · intro h
    obtain ⟨first, hfirst, h⟩ := bind_eq_ok.mp h
    obtain ⟨more, hmore, h⟩ := bind_eq_ok.mp h
    exact ⟨first, more, hfirst, hmore, Except.ok.inj h⟩
  · rintro ⟨first, more, hfirst, hmore, rfl⟩
    exact bind_eq_ok.mpr ⟨first, hfirst, bind_eq_ok.mpr ⟨more, hmore, rfl⟩⟩

/-- The records of families are what the single families contribute. -/
theorem mem_ofFamilies {families : List CatalogFamily}
    (h : ofFamilies ws providers families = .ok all) :
    r ∈ all.records ↔
      ∃ family ∈ families, ∃ c, ofFamily ws providers family = .ok c ∧ r ∈ c.records := by
  induction families generalizing all with
  | nil =>
    cases h
    simp
  | cons family rest ih =>
    obtain ⟨first, more, hfirst, hmore, rfl⟩ := ofFamilies_cons_eq_ok.mp h
    simp [Contribution.append, ih hmore, hfirst]

/-- Families that yield something together do so each. -/
theorem ofFamily_of_ofFamilies {families : List CatalogFamily}
    (h : ofFamilies ws providers families = .ok all) {family : CatalogFamily}
    (hfamily : family ∈ families) : ∃ c, ofFamily ws providers family = .ok c := by
  induction families generalizing all with
  | nil => simp at hfamily
  | cons family' rest ih =>
    obtain ⟨first, more, hfirst, hmore, -⟩ := ofFamilies_cons_eq_ok.mp h
    rcases List.mem_cons.mp hfamily with rfl | hfamily
    · exact ⟨first, hfirst⟩
    · exact ih hmore hfamily

/-- What a family contributes has an origin. -/
theorem origin_of_mem_ofFamily {family : CatalogFamily} {c : Contribution}
    (h : ofFamily ws providers family = .ok c) (hr : r ∈ c.records) : Origin ws providers r := by
  -- One family for each rule; only that of providers can fail, and then it has no records.
  cases family with
  | standard =>
    cases h
    obtain ⟨p, hp, rfl⟩ := List.mem_map.mp hr
    exact .predefined hp
  | provider =>
    obtain ⟨provider, hprovider, scopes, diagnostics, hcollect, p, hp, rfl⟩ :=
      (mem_providerFamily h).mp hr
    exact .contributed hprovider hcollect hp
  | named =>
    cases h
    obtain ⟨holder, hholder, scope, hscope, hr⟩ := mem_namedFamily.mp hr
    obtain ⟨text, p, htext, hp, rfl⟩ := mem_ofNamedScope.mp hr
    exact .named hholder hscope htext hp
  | module =>
    cases h
    obtain ⟨m, hm, flavor, rfl⟩ := mem_moduleFamily.mp hr
    exact .module hm flavor

/-- Whatever has an origin is contributed by some family. -/
theorem mem_ofFamily_of_origin (h : Origin ws providers r)
    (hfamilies : ∀ family, ∃ c, ofFamily ws providers family = .ok c) :
    ∃ family c, ofFamily ws providers family = .ok c ∧ r ∈ c.records := by
  cases h with
  | predefined hp => exact ⟨.standard, _, rfl, List.mem_map_of_mem hp⟩
  | @contributed provider scopes diagnostics p hprovider hcollect hp =>
    obtain ⟨c, hc⟩ := hfamilies .provider
    refine ⟨.provider, c, hc, (mem_providerFamily hc).mpr ?_⟩
    exact ⟨provider, hprovider, scopes, diagnostics, hcollect, p, hp, rfl⟩
  | @named holder scope text p hholder hscope htext hp =>
    refine ⟨.named, _, rfl, mem_namedFamily.mpr ⟨holder, hholder, scope, hscope, ?_⟩⟩
    exact mem_ofNamedScope.mpr ⟨text, p, htext, hp, rfl⟩
  | @module m hm flavor => exact ⟨.module, _, rfl, mem_moduleFamily.mpr ⟨m, hm, flavor, rfl⟩⟩

/-- Whatever order is given, no family is left out. -/
theorem mem_completeOrder (order : List CatalogFamily) (family : CatalogFamily) :
    family ∈ completeOrder order := by
  rw [completeOrder, List.mem_eraseDups]
  exact List.mem_append_right _ (by cases family <;> decide)

/-- The families yield exactly the records that have an origin. -/
theorem mem_ofFamilies_iff_origin {order : List CatalogFamily}
    (h : ofFamilies ws providers (completeOrder order) = .ok all) :
    r ∈ all.records ↔ Origin ws providers r := by
  rw [mem_ofFamilies h]
  constructor
  · rintro ⟨family, -, c, hc, hr⟩
    exact origin_of_mem_ofFamily hc hr
  · intro horigin
    obtain ⟨family, c, hc, hr⟩ :=
      mem_ofFamily_of_origin horigin fun family =>
        ofFamily_of_ofFamilies h (mem_completeOrder order family)
    exact ⟨family, mem_completeOrder order family, c, hc, hr⟩

/-! ## Snapshots -/

section Snapshots

variable {policy : CollisionPolicy} {order : List CatalogFamily} {catalog : Snapshot}
  {refId : String}

/-- What a snapshot finds under a reference id is a record with that id, and it has an origin. -/
theorem origin_of_get? (hbuild : Snapshot.build ws providers policy order = .ok catalog)
    (h : catalog.get? refId = some r) : Origin ws providers r ∧ r.refId = refId := by
  obtain ⟨all, hall, hcatalog⟩ := bind_eq_ok.mp hbuild
  cases hcatalog
  obtain ⟨hr, hrefId⟩ := Registry.mem_of_get? h
  exact ⟨(mem_ofFamilies_iff_origin hall).mp (Registry.mem_of_mem_ofList hr), hrefId⟩

/-- The reference id of a record that has an origin is taken. -/
theorem isSome_get?_of_origin (hbuild : Snapshot.build ws providers policy order = .ok catalog)
    (h : Origin ws providers r) : (catalog.get? r.refId).isSome := by
  obtain ⟨all, hall, hcatalog⟩ := bind_eq_ok.mp hbuild
  cases hcatalog
  exact (Registry.isSome_get?_ofList policy).mpr ⟨r, (mem_ofFamilies_iff_origin hall).mpr h, rfl⟩

/-- A snapshot finds each of its records under the record's id. -/
theorem get?_of_mem_records (hbuild : Snapshot.build ws providers policy order = .ok catalog)
    (h : r ∈ catalog.records) : catalog.get? r.refId = some r := by
  obtain ⟨all, -, hcatalog⟩ := bind_eq_ok.mp hbuild
  cases hcatalog
  exact Registry.get?_of_mem (Registry.nodup_ofList policy) h

/-- Each record of a snapshot has an origin. -/
theorem origin_of_mem_records (hbuild : Snapshot.build ws providers policy order = .ok catalog)
    (h : r ∈ catalog.records) : Origin ws providers r :=
  (origin_of_get? hbuild (get?_of_mem_records hbuild h)).1

end Snapshots

/-! ## The family of a record -/

/-- A record with an origin is standard or comes from a provider, a holder or a module. -/
theorem Origin.cases_record (h : Origin ws providers r) :
    (∃ scope p, r = standardRecord scope p) ∨
      (∃ providerId unstable p, r = providerRecord providerId unstable p) ∨
        (∃ holder ∈ ws.holders, ∃ scope ∈ holder.scopes, ∃ text p, scope.pattern? = some text ∧
          Workspace.patternScope text (some scope.displayName) = .ok p ∧
          r = namedRecord holder scope p) ∨
      ∃ m ∈ ws.modules, ∃ flavor, r = moduleRecord ws m flavor := by
  cases h with
  | @predefined p hp =>
    unfold predefinedRecord
    split
    next scope _ => exact .inl ⟨scope, p, rfl⟩
    next => exact .inr (.inl ⟨_, _, p, rfl⟩)
  | @contributed provider _ _ p hprovider hcollect hp =>
    exact .inr (.inl ⟨provider.id, true, p, rfl⟩)
  | @named holder scope text p hholder hscope htext hp =>
    exact .inr (.inr (.inl ⟨holder, hholder, scope, hscope, text, p, htext, hp, rfl⟩))
  | @module m hm flavor => exact .inr (.inr (.inr ⟨m, hm, flavor, rfl⟩))

/-- No record is of an ad-hoc kind. -/
theorem Origin.isAdhoc_kind (h : Origin ws providers r) : r.item.kind.isAdhoc = false := by
  rcases h.cases_record with ⟨_, _, rfl⟩ | ⟨_, _, _, rfl⟩ | ⟨_, -, _, -, _, _, -, -, rfl⟩
    | ⟨_, -, _, rfl⟩ <;> rfl

/-- A record with a standard id is that of a standard scope. -/
theorem Origin.of_standard {scopeId : String} (h : Origin ws providers r)
    (hrefId : r.refId = RefId.standard scopeId) :
    ∃ scope p, word scope = scopeId ∧ r = standardRecord scope p := by
  -- The ids of the other families start with other words.
  rcases h.cases_record with
    ⟨scope, p, rfl⟩ | ⟨_, _, p, rfl⟩ | ⟨holder, -, scope, -, _, p, -, -, rfl⟩ | ⟨m, -, flavor, rfl⟩
  · exact ⟨scope, p, RefId.standard_injective hrefId, rfl⟩
  · exact absurd hrefId.symm RefId.standard_ne_provider
  · exact absurd hrefId.symm RefId.standard_ne_named
  · exact absurd hrefId.symm RefId.standard_ne_module

/-- A record with a module's id is that of the module. -/
theorem Origin.of_module {name : String} {flavor : ModuleFlavor} (h : Origin ws providers r)
    (hrefId : r.refId = RefId.module name flavor) :
    ∃ m ∈ ws.modules, m.name = name ∧ r = moduleRecord ws m flavor := by
  rcases h.cases_record with ⟨scope, p, rfl⟩ | ⟨_, _, p, rfl⟩ |
    ⟨holder, -, scope, -, _, p, -, -, rfl⟩ | ⟨m, hm, flavor', rfl⟩
  · exact absurd hrefId RefId.standard_ne_module
  · exact absurd hrefId.symm RefId.module_ne_provider
  · exact absurd hrefId.symm RefId.module_ne_named
  · obtain ⟨hname, rfl⟩ := RefId.module_injective hrefId
    exact ⟨m, hm, hname, rfl⟩

/-- A record with a named scope's id is that of a scope with a pattern that can be read. -/
theorem Origin.of_named {holderId name : String} (h : Origin ws providers r)
    (hrefId : r.refId = RefId.named holderId name) :
    ∃ holder ∈ ws.holders, ∃ scope ∈ holder.scopes, ∃ text p, scope.pattern? = some text ∧
      Workspace.patternScope text (some scope.displayName) = .ok p ∧
        r = namedRecord holder scope p := by
  rcases h.cases_record with ⟨scope, p, rfl⟩ | ⟨_, _, p, rfl⟩ | hnamed | ⟨m, -, flavor, rfl⟩
  · exact absurd hrefId RefId.standard_ne_named
  · exact absurd hrefId.symm RefId.named_ne_provider
  · exact hnamed
  · exact absurd hrefId RefId.module_ne_named

/-! ## Looking modules and named scopes up -/

section LookUp

variable {policy : CollisionPolicy} {order : List CatalogFamily} {catalog : Snapshot}

/-- Under a module's id a snapshot has the module's own scope. -/
theorem get?_module (hbuild : Snapshot.build ws providers policy order = .ok catalog) {m : Module}
    (hm : m ∈ ws.modules) (flavor : ModuleFlavor) :
    catalog.get? (RefId.module m.name flavor) = some (moduleRecord ws m flavor) := by
  obtain ⟨r, hr⟩ := Option.isSome_iff_exists.mp (isSome_get?_of_origin hbuild (.module hm flavor))
  obtain ⟨horigin, hrefId⟩ := origin_of_get? hbuild hr
  obtain ⟨m', hm', hname, rfl⟩ := horigin.of_module hrefId
  obtain rfl : m' = m := List.inj_on_of_nodup_map ws.names_nodup hm' hm hname
  exact hr

/-- The named scopes of a workspace with their holders. -/
def namedScopes (ws : Workspace) : List (Holder × NamedScope) :=
  ws.holders.flatMap fun holder => holder.scopes.map fun scope => (holder, scope)

/-- No two named scopes share a reference id. -/
def NamedApart (ws : Workspace) : Prop :=
  ((namedScopes ws).map fun named => RefId.named named.1.id named.2.name).Nodup

/-- A named scope stands beside the holder that keeps it. -/
theorem mem_namedScopes {holder : Holder} {scope : NamedScope} :
    (holder, scope) ∈ namedScopes ws ↔ holder ∈ ws.holders ∧ scope ∈ holder.scopes := by
  simp only [namedScopes, List.mem_flatMap, List.mem_map, Prod.mk.injEq]
  constructor
  · rintro ⟨holder', hholder, scope', hscope, rfl, rfl⟩
    exact ⟨hholder, hscope⟩
  · rintro ⟨hholder, hscope⟩
    exact ⟨holder, hholder, scope, hscope, rfl, rfl⟩

/-- Where no two named scopes share an id, a snapshot has under the id of one its own predicate. -/
theorem get?_named (hbuild : Snapshot.build ws providers policy order = .ok catalog)
    (hapart : NamedApart ws) {holder : Holder} {scope : NamedScope} {text : String}
    {p : Predicate} (hholder : holder ∈ ws.holders) (hscope : scope ∈ holder.scopes)
    (htext : scope.pattern? = some text)
    (hp : Workspace.patternScope text (some scope.displayName) = .ok p) :
    catalog.get? (RefId.named holder.id scope.name) = some (namedRecord holder scope p) := by
  obtain ⟨r, hr⟩ := Option.isSome_iff_exists.mp
    (isSome_get?_of_origin hbuild (.named hholder hscope htext hp))
  obtain ⟨horigin, hrefId⟩ := origin_of_get? hbuild hr
  obtain ⟨holder', hholder', scope', hscope', text', p', htext', hp', rfl⟩ :=
    horigin.of_named hrefId
  have hmem : (holder, scope) ∈ namedScopes ws := mem_namedScopes.mpr ⟨hholder, hscope⟩
  have hmem' : (holder', scope') ∈ namedScopes ws := mem_namedScopes.mpr ⟨hholder', hscope'⟩
  have hsame : (holder', scope') = (holder, scope) :=
    List.inj_on_of_nodup_map hapart hmem' hmem hrefId
  cases hsame
  rw [htext] at htext'
  cases htext'
  rw [hp] at hp'
  cases hp'
  exact hr

end LookUp

end ScopeAlgebra.Catalog
