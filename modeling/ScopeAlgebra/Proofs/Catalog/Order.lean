import ScopeAlgebra.Proofs.Catalog.Providers

/-!
# The order of the families

A snapshot registers what the families contribute one family after the other. The first word of a
reference id tells the family, except for presets without a standard name, which are listed as
scopes of a provider; so the order of the families and the collision policy decide about nothing
else (`build_order_irrelevant`).
-/

namespace ScopeAlgebra.Catalog

variable {ws : Workspace} {providers : List Provider} {contributed : Contribution}

/-! ## What the families contribute -/

/-- What each family contributes, given what the providers do. -/
def part (ws : Workspace) (contributed : Contribution) : CatalogFamily → Contribution
  | .standard => standardFamily ws
  | .provider => contributed
  | .named => namedFamily ws
  | .module => moduleFamily ws

/-- Once the providers are collected from, every family contributes its part. -/
theorem ofFamily_eq_part (h : providerFamily ws providers = .ok contributed)
    (family : CatalogFamily) : ofFamily ws providers family = .ok (part ws contributed family) := by
  cases family with
  | provider => exact h
  | standard | named | module => rfl

/-- Families contribute their parts one after the other. -/
theorem ofFamilies_eq_parts (h : providerFamily ws providers = .ok contributed)
    (families : List CatalogFamily) :
    ofFamilies ws providers families =
      .ok ⟨families.flatMap fun family => (part ws contributed family).records,
        families.flatMap fun family => (part ws contributed family).diagnostics⟩ := by
  induction families with
  | nil => rfl
  | cons family rest ih =>
    exact ofFamilies_cons_eq_ok.mpr ⟨_, _, ofFamily_eq_part h family, ih, rfl⟩

/-- What the families contribute in some order. -/
def parts (ws : Workspace) (contributed : Contribution) (order : List CatalogFamily) :
    Contribution :=
  ⟨(completeOrder order).flatMap fun family => (part ws contributed family).records,
    (completeOrder order).flatMap fun family => (part ws contributed family).diagnostics⟩

/-- Where all providers can be read to the end, a snapshot is made of what they and the other
families contribute. -/
theorem build_eq_parts (h : providerFamily ws providers = .ok contributed)
    (policy : CollisionPolicy) (order : List CatalogFamily) :
    Snapshot.build ws providers policy order =
      .ok ⟨Registry.ofList policy (parts ws contributed order).records,
        (parts ws contributed order).diagnostics.eraseDups⟩ := by
  rw [Snapshot.build, ofFamilies_eq_parts h]
  rfl

/-- Whatever the order, the records are those of all families. -/
theorem mem_parts_records {order : List CatalogFamily} {r : Record} :
    r ∈ (parts ws contributed order).records ↔
      ∃ family, r ∈ (part ws contributed family).records := by
  simp [parts, mem_completeOrder]

/-- Whatever the order, the notes are those of all families. -/
theorem mem_parts_diagnostics {order : List CatalogFamily} {text : String} :
    text ∈ (parts ws contributed order).diagnostics ↔
      ∃ family, text ∈ (part ws contributed family).diagnostics := by
  simp [parts, mem_completeOrder]

/-- No family comes twice. -/
theorem nodup_completeOrder (order : List CatalogFamily) : (completeOrder order).Nodup :=
  nodup_eraseDups _

/-! ## The family of an id -/

/-- What the reference ids of presets without a standard name start with. -/
def predefinedHead : String := "provider:predefined:"

/-- The id of a preset without a standard name starts in the way of such presets. -/
theorem hasHead_predefined (displayName implementation : String) :
    Text.hasHead predefinedHead
      (RefId.provider predefinedProviderId displayName implementation) = true := by
  simp [Text.hasHead, predefinedHead, RefId.provider, predefinedProviderId, List.isPrefixOf]

/-- The first word of a reference id is that of the family, unless a preset without a standard name
has the id. -/
theorem firstWord_of_mem_ofFamily {family : CatalogFamily} {c : Contribution} {r : Record}
    (h : ofFamily ws providers family = .ok c) (hr : r ∈ c.records)
    (hhead : Text.hasHead predefinedHead r.refId = false) :
    RefId.firstWord r.refId = (word family).toList := by
  -- A preset gets a standard id by its name, and else an id of the kind that is ruled out.
  cases family with
  | standard =>
    cases h
    obtain ⟨p, -, rfl⟩ := List.mem_map.mp hr
    unfold predefinedRecord at hhead ⊢
    cases hname : StandardScope.ofDisplayName? p.displayName with
    | some scope => exact RefId.firstWord_standard
    | none =>
      rw [hname] at hhead
      have hpredefined : Text.hasHead predefinedHead
          (providerRecord predefinedProviderId false p).refId = true :=
        hasHead_predefined ..
      rw [hpredefined] at hhead
      contradiction
  | provider =>
    obtain ⟨provider, -, -, -, -, p, -, rfl⟩ := (mem_providerFamily h).mp hr
    exact RefId.firstWord_provider
  | named =>
    cases h
    obtain ⟨holder, -, scope, -, hr⟩ := mem_namedFamily.mp hr
    obtain ⟨text, p, -, -, rfl⟩ := mem_ofNamedScope.mp hr
    exact RefId.firstWord_named
  | module =>
    cases h
    obtain ⟨m, -, flavor, rfl⟩ := mem_moduleFamily.mp hr
    exact RefId.firstWord_module

/-- A family gives no records under ids that start with the word of another one, apart from presets
without a standard name. -/
theorem sharing_part_eq_nil (h : providerFamily ws providers = .ok contributed) {refId : String}
    (hhead : Text.hasHead predefinedHead refId = false) {family : CatalogFamily}
    (hword : RefId.firstWord refId ≠ (word family).toList) :
    Registry.sharing (part ws contributed family).records refId = [] := by
  refine List.eq_nil_iff_forall_not_mem.mpr fun r hr => hword ?_
  obtain ⟨hmem, rfl⟩ := Registry.mem_sharing.mp hr
  exact firstWord_of_mem_ofFamily (ofFamily_eq_part h family) hmem hhead

/-- At most one family contributes records under an id that is not that of a preset without a
standard name. -/
theorem exists_owner (h : providerFamily ws providers = .ok contributed) {refId : String}
    (hhead : Text.hasHead predefinedHead refId = false) :
    ∃ owner, ∀ family ≠ owner,
      Registry.sharing (part ws contributed family).records refId = [] := by
  -- The owner is the family of the id's first word; where that is no family's word, nobody gives
  -- anything.
  refine ⟨(Vocabulary.ofWord? (String.ofList (RefId.firstWord refId))).getD .standard,
    fun family hne => ?_⟩
  refine sharing_part_eq_nil h hhead fun hword => hne ?_
  rw [hword, String.ofList_toList, Vocabulary.ofWord?_word]
  rfl

/-- Lists of which all but one are empty are that one when they are put together. -/
theorem flatMap_eq_of_forall_ne {α β : Type} {xs : List α} {x : α} {f : α → List β}
    (hnodup : xs.Nodup) (hx : x ∈ xs) (h : ∀ y ≠ x, f y = []) : xs.flatMap f = f x := by
  -- The one list is that of the head, and nothing follows, or the head has none.
  induction xs with
  | nil => simp at hx
  | cons y rest ih =>
    obtain ⟨hy, hrest⟩ := List.nodup_cons.mp hnodup
    rw [List.flatMap_cons]
    rcases List.mem_cons.mp hx with rfl | hx
    · have hempty : rest.flatMap f = [] :=
        List.flatMap_eq_nil_iff.mpr fun z hz => h z fun hzx => hy (hzx ▸ hz)
      rw [hempty, List.append_nil]
    · rw [h y fun hyx => hy (hyx ▸ hx), List.nil_append, ih hrest hx]

/-- The records under an id that one family alone gives are those of that family, whatever the
order. -/
theorem sharing_parts {owner : CatalogFamily} {refId : String}
    (h : ∀ family ≠ owner, Registry.sharing (part ws contributed family).records refId = [])
    (order : List CatalogFamily) : Registry.sharing (parts ws contributed order).records refId =
      Registry.sharing (part ws contributed owner).records refId := by
  rw [parts, Registry.sharing, List.filter_flatMap]
  exact flatMap_eq_of_forall_ne (nodup_completeOrder order) (mem_completeOrder order owner) h

/-! ## Two snapshots of the same sources -/

/-- Whatever the order of the families and the collision policy, the same reference ids are listed
and the same is noted. Under one policy the order decides only about presets without a standard name
and scopes of a provider that goes by their provider id. -/
theorem build_order_irrelevant (ws : Workspace) (providers : List Provider)
    (hproviders : ∀ p ∈ providers, p.Completes ws) (policy policy' : CollisionPolicy)
    (order order' : List CatalogFamily) :
    ∃ catalog catalog', Snapshot.build ws providers policy order = .ok catalog ∧
      Snapshot.build ws providers policy' order' = .ok catalog' ∧
      (∀ refId, refId ∈ catalog.records.map Record.refId ↔
        refId ∈ catalog'.records.map Record.refId) ∧
      (∀ text, text ∈ catalog.diagnostics ↔ text ∈ catalog'.diagnostics) ∧
      (policy = policy' → ∀ refId, Text.hasHead "provider:predefined:" refId = false →
        catalog.get? refId = catalog'.get? refId) := by
  obtain ⟨contributed, h⟩ := exists_providerFamily_iff.mpr hproviders
  refine ⟨_, _, build_eq_parts h policy order, build_eq_parts h policy' order', fun refId => ?_,
    fun text => ?_, ?_⟩
  · have hlisted (policy : CollisionPolicy) (order : List CatalogFamily) :
        refId ∈ (Registry.ofList policy (parts ws contributed order).records).map Record.refId ↔
          ∃ r, (∃ family, r ∈ (part ws contributed family).records) ∧ r.refId = refId := by
      rw [List.mem_map, ← Registry.isSome_get?_iff, Registry.isSome_get?_ofList]
      simp only [mem_parts_records]
    exact (hlisted policy order).trans (hlisted policy' order').symm
  · simp only [List.mem_eraseDups, mem_parts_diagnostics]
  · rintro rfl refId hhead
    -- One family gives all records of an id, so their order is the order within that family.
    obtain ⟨owner, howner⟩ := exists_owner h hhead
    rw [Snapshot.get?, Snapshot.get?, Registry.get?_ofList, Registry.get?_ofList,
      sharing_parts howner order, sharing_parts howner order']

/-- A workspace with a preset that has no standard name. -/
def vendoredWorkspace : Workspace where
  files := []
  modules := []
  extraPresets := [.filter "Vendored" fun f => f.root = .library]
  urls_nodup := List.nodup_nil
  names_nodup := List.nodup_nil

/-- A provider that goes by the provider id of such presets, and lists a scope of the same name. -/
def rivalProvider : Provider where
  implementation := "plugin.Rival"
  declaredId? := some "predefined"
  listScopes? := some fun _ => .offers [.scope 0 (.filter "Vendored" fun _ => false), .other]

/-- The preset and its rival share their id, and whichever comes first, all else is the same. -/
theorem build_rival_irrelevant :
    (∀ p ∈ [rivalProvider], p.Completes vendoredWorkspace) ∧
      ∃ catalog catalog',
        Snapshot.build vendoredWorkspace [rivalProvider] .lastWins [.provider] = .ok catalog ∧
        Snapshot.build vendoredWorkspace [rivalProvider] .lastWins [.module, .named] =
          .ok catalog' ∧
        (∀ refId, refId ∈ catalog.records.map Record.refId ↔
          refId ∈ catalog'.records.map Record.refId) ∧
        catalog.get? "standard:AllPlaces" = catalog'.get? "standard:AllPlaces" := by
  have hproviders : ∀ p ∈ [rivalProvider], p.Completes vendoredWorkspace := by
    simp [Provider.Completes, Provider.methods, rivalProvider]
  obtain ⟨catalog, catalog', hbuild, hbuild', hids, -, hget⟩ :=
    build_order_irrelevant vendoredWorkspace [rivalProvider] hproviders .lastWins
      .lastWins [.provider] [.module, .named]
  exact ⟨hproviders, catalog, catalog', hbuild, hbuild', hids,
    hget rfl "standard:AllPlaces" (by decide)⟩

end ScopeAlgebra.Catalog
