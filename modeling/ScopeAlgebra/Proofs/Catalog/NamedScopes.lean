import ScopeAlgebra.Proofs.Catalog.Order
import ScopeAlgebra.Proofs.Pattern.Render
import ScopeAlgebra.Wire.Manifest

/-!
# Named scopes and the ids that they share

Distinct named scopes may have one reference id, because holders' ids and scopes' names may hold the
colon that stands between them. The catalog keeps one record under such an id, the one that the
collision policy leaves, and the others are gone without a note (`named_scopes_kept`). Where no
name, or no holder's id, holds a colon, no scope is lost.
-/

namespace ScopeAlgebra

/-- A named scope whose pattern can be read, with its holder and the tree of its pattern. -/
structure ReadScope where
  holder : Holder
  scope : NamedScope
  tree : Pattern

namespace ReadScope

/-- The named scope of a holder, if it has a pattern that can be read. -/
def of? (holder : Holder) (scope : NamedScope) : Option ReadScope :=
  scope.pattern?.bind fun text => (Pattern.parse text).toOption.map fun tree =>
    ⟨holder, scope, tree⟩

/-- The reference id of a named scope. -/
def refId (n : ReadScope) : String := RefId.named n.holder.id n.scope.name

/-- The record that a named scope contributes. -/
def record (n : ReadScope) : Record :=
  let name := if n.scope.displayName.isEmpty then n.tree.render else n.scope.displayName
  Catalog.namedRecord n.holder n.scope (.filter name n.tree.selects)

end ReadScope

/-- The named scopes of a workspace whose patterns can be read, in order. -/
def Workspace.readScopes (ws : Workspace) : List ReadScope :=
  (Catalog.namedScopes ws).filterMap fun named => ReadScope.of? named.1 named.2

/-- Whether the catalog holds the scope of a holder under its id, as a record that names both and
selects what the pattern matches. -/
def Snapshot.Holds (catalog : Snapshot) (n : ReadScope) : Prop :=
  ∃ r, catalog.get? (RefId.named n.holder.id n.scope.name) = some r ∧
    r.item.holderId? = some n.holder.id ∧
    r.item.scopeName? = some n.scope.name ∧ ∀ f, r.predicate.contains f = n.tree.selects f

namespace Catalog

variable {ws : Workspace} {providers : List Provider} {policy : CollisionPolicy}
  {order : List CatalogFamily} {catalog : Snapshot} {n : ReadScope}

/-! ## The records of named scopes -/

/-- A named scope gives a record when it can be read, and then one. -/
theorem records_ofNamedScope (holder : Holder) (scope : NamedScope) :
    (ofNamedScope holder scope).records =
      ((ReadScope.of? holder scope).map ReadScope.record).toList := by
  unfold ofNamedScope ReadScope.of?
  cases scope.pattern? with
  | none => rfl
  | some text =>
    cases h : Pattern.parse text with
    | error e => simp [Workspace.patternScope, h, Except.toOption, bind, Except.bind]
    | ok tree =>
      simp [Workspace.patternScope, h, Except.toOption, bind, Except.bind, pure, Except.pure,
        ReadScope.record]

/-- The named family gives one record for each scope whose pattern can be read. -/
theorem records_namedFamily (ws : Workspace) :
    (namedFamily ws).records = ws.readScopes.map ReadScope.record := by
  rw [Workspace.readScopes, List.map_filterMap, List.filterMap_eq_flatMap_toList]
  simp only [namedFamily, namedScopes, List.flatMap_assoc, List.flatMap_map, records_ofNamedScope]

/-- The id of a named scope is not one that presets without a standard name get. -/
theorem hasHead_named (holderId name : String) :
    Text.hasHead predefinedHead (RefId.named holderId name) = false := by
  simp [Text.hasHead, predefinedHead, RefId.named, List.isPrefixOf]

/-- Under the id of a named scope stands what a collision leaves of the scopes with that id. -/
theorem get?_named_eq_survivor (hbuild : Snapshot.build ws providers policy order = .ok catalog)
    (holderId name : String) :
    catalog.get? (RefId.named holderId name) =
      (policy.survivor
        (ws.readScopes.filter fun n => decide (n.refId = RefId.named holderId name))).map
          ReadScope.record := by
  obtain ⟨contributed, h⟩ := exists_providerFamily_iff.mpr (exists_build_iff.mp ⟨catalog, hbuild⟩)
  rw [build_eq_parts h] at hbuild
  cases hbuild
  -- Presets without a standard name are no obstacle, as their ids start with another word too.
  have hothers : ∀ family ≠ .named,
      Registry.sharing (part ws contributed family).records (RefId.named holderId name) = [] := by
    intro family hne
    refine sharing_part_eq_nil h (hasHead_named holderId name) ?_
    rw [RefId.firstWord_named]
    cases family with
    | named => exact absurd rfl hne
    | standard | provider | module => decide
  rw [Snapshot.get?, Registry.get?_ofList, sharing_parts hothers, ← CollisionPolicy.survivor_map]
  show policy.survivor (Registry.sharing (namedFamily ws).records _) = _
  rw [records_namedFamily, Registry.sharing, List.filter_map]
  rfl

/-! ## The scopes that are kept -/

/-- A scope is kept exactly when it is the one that a collision leaves of those with its id. -/
theorem holds_iff_survivor (hbuild : Snapshot.build ws providers policy order = .ok catalog)
    (hdistinct : (ws.readScopes.map fun n => (n.holder.id, n.scope.name)).Nodup)
    (hn : n ∈ ws.readScopes) :
    catalog.Holds n ↔
      policy.survivor (ws.readScopes.filter fun m => decide (m.refId = n.refId)) = some n := by
  have hget : catalog.get? (RefId.named n.holder.id n.scope.name) =
      (policy.survivor (ws.readScopes.filter fun m => decide (m.refId = n.refId))).map
        ReadScope.record :=
    get?_named_eq_survivor hbuild n.holder.id n.scope.name
  rw [Snapshot.Holds, hget]
  constructor
  · rintro ⟨r, hr, hholder, hname, -⟩
    -- The record names the scope that it comes from, and no other scope has that holder and that
    -- name.
    obtain ⟨m, hm, rfl⟩ := Option.map_eq_some_iff.mp hr
    have hmem : m ∈ ws.readScopes := (List.mem_filter.mp (CollisionPolicy.mem_of_survivor hm)).1
    have hsame : (m.holder.id, m.scope.name) = (n.holder.id, n.scope.name) :=
      Prod.ext (Option.some.inj hholder) (Option.some.inj hname)
    obtain rfl : m = n := List.inj_on_of_nodup_map hdistinct hmem hn hsame
    exact hm
  · intro hn
    rw [hn]
    exact ⟨n.record, rfl, rfl, rfl, fun f => rfl⟩

/-- All scopes are kept exactly when no two of them have the same id. -/
theorem forall_holds_iff_nodup (hbuild : Snapshot.build ws providers policy order = .ok catalog)
    (hdistinct : (ws.readScopes.map fun n => (n.holder.id, n.scope.name)).Nodup) :
    (∀ n ∈ ws.readScopes, catalog.Holds n) ↔ (ws.readScopes.map ReadScope.refId).Nodup := by
  -- Two scopes with one id cannot both be what the collision leaves; without a second one there is
  -- nothing else to leave.
  constructor
  · intro hholds
    refine List.Nodup.map_on (fun m hm n hn hsame => ?_) hdistinct.of_map
    have hleft := (holds_iff_survivor hbuild hdistinct hm).mp (hholds m hm)
    have hright := (holds_iff_survivor hbuild hdistinct hn).mp (hholds n hn)
    rw [hsame, hright] at hleft
    exact (Option.some.inj hleft).symm
  · intro hnodup n hn
    have hgiven : n ∈ ws.readScopes.filter fun m => decide (m.refId = n.refId) :=
      List.mem_filter.mpr ⟨hn, by simp⟩
    obtain ⟨m, hm⟩ := CollisionPolicy.exists_survivor policy hgiven
    obtain ⟨hmem, hsame⟩ := List.mem_filter.mp (CollisionPolicy.mem_of_survivor hm)
    obtain rfl : m = n := List.inj_on_of_nodup_map hnodup hmem hn (by simpa using hsame)
    exact (holds_iff_survivor hbuild hdistinct hn).mpr hm

/-- Where the scopes' names, or the holders' ids, are without colons, distinct scopes have distinct
ids. -/
theorem nodup_refId (hdistinct : (ws.readScopes.map fun n => (n.holder.id, n.scope.name)).Nodup)
    (hcolon : (∀ n ∈ ws.readScopes, ':' ∉ n.scope.name.toList) ∨ ∀ n ∈ ws.readScopes,
      ':' ∉ n.holder.id.toList) : (ws.readScopes.map ReadScope.refId).Nodup := by
  refine List.Nodup.map_on (fun m hm n hn hsame => ?_) hdistinct.of_map
  have hparts : m.holder.id = n.holder.id ∧ m.scope.name = n.scope.name := by
    -- An id is read from its end, or from its start, up to the colon between the two parts.
    rcases hcolon with hname | hholder
    · exact RefId.named_injective (hname m hm) (hname n hn) hsame
    · exact RefId.named_injective_of_holder (hholder m hm) (hholder n hn) hsame
  exact List.inj_on_of_nodup_map hdistinct hm hn (Prod.ext hparts.1 hparts.2)

/-- Of distinct named scopes the catalog holds exactly those that a collision leaves of the scopes
with their id: the first or the last of them in the order of the holders, as the policy says. So all
are held exactly when no two have the same id, and this is so where no scope's name, or no holder's
id, holds a colon. -/
theorem named_scopes_kept (ws : Workspace) (providers : List Provider)
    (hproviders : ∀ p ∈ providers, p.Completes ws) (policy : CollisionPolicy)
    (order : List CatalogFamily)
    (hdistinct : (ws.readScopes.map fun n => (n.holder.id, n.scope.name)).Nodup) :
    ∃ catalog, Snapshot.build ws providers policy order = .ok catalog ∧
      (∀ n ∈ ws.readScopes, catalog.Holds n ↔
        policy.survivor (ws.readScopes.filter fun m => decide (m.refId = n.refId)) = some n) ∧
      ((∀ n ∈ ws.readScopes, catalog.Holds n) ↔ (ws.readScopes.map ReadScope.refId).Nodup) ∧
      ((∀ n ∈ ws.readScopes, ':' ∉ n.scope.name.toList) ∨
        (∀ n ∈ ws.readScopes, ':' ∉ n.holder.id.toList) → ∀ n ∈ ws.readScopes,
          catalog.Holds n) := by
  obtain ⟨catalog, hbuild⟩ := exists_build_iff.mpr hproviders
  have hall := forall_holds_iff_nodup hbuild hdistinct
  exact ⟨catalog, hbuild, fun n hn => holds_iff_survivor hbuild hdistinct hn, hall,
    fun hcolon => hall.mpr (nodup_refId hdistinct hcolon)⟩

/-! ## Two named scopes with one id -/

/-- A manifest with a scope "b:c" of the holder "a" and a scope "c" of the holder "a:b". -/
def clashManifest : Json :=
  let entry (holder name pattern : String) : Json := .object [("holder", .string holder),
    ("scopes", .array [.object [("name", .string name), ("pattern", .string pattern)]])]
  .object [("named_scopes", .array [entry "a" "b:c" "file:x", entry "a:b" "c" "file:y"])]

/-- The first of these scopes. -/
def hiddenScope : ReadScope where
  holder := { id := "a", scopes := [{ name := "b:c", pattern? := some "file:x" }] }
  scope := { name := "b:c", pattern? := some "file:x" }
  tree := .term ⟨.file, none, "x"⟩

/-- The second one. -/
def hidingScope : ReadScope where
  holder := { id := "a:b", scopes := [{ name := "c", pattern? := some "file:y" }] }
  scope := { name := "c", pattern? := some "file:y" }
  tree := .term ⟨.file, none, "y"⟩

/-- The workspace that the manifest describes. -/
def clashWorkspace : Workspace where
  files := []
  modules := []
  holders := [hiddenScope.holder, hidingScope.holder]
  urls_nodup := List.nodup_nil
  names_nodup := List.nodup_nil

/-- Both scopes of that workspace can be read. -/
theorem readScopes_clashWorkspace : clashWorkspace.readScopes = [hiddenScope, hidingScope] := by
  have hcanonical : Pattern.Canonical hiddenScope.tree :=
    Pattern.canonical_plain (by decide) (by decide)
  have hcanonical' : Pattern.Canonical hidingScope.tree :=
    Pattern.canonical_plain (by decide) (by decide)
  have hx : Pattern.parse "file:x" = .ok hiddenScope.tree := hcanonical.parse_render
  have hy : Pattern.parse "file:y" = .ok hidingScope.tree := hcanonical'.parse_render
  have hscopes : namedScopes clashWorkspace =
      [(hiddenScope.holder, hiddenScope.scope), (hidingScope.holder, hidingScope.scope)] := rfl
  have hhidden : ReadScope.of? hiddenScope.holder hiddenScope.scope = some hiddenScope := by
    show ((Pattern.parse "file:x").toOption.map fun tree => _) = _
    rw [hx]
    rfl
  have hhiding : ReadScope.of? hidingScope.holder hidingScope.scope = some hidingScope := by
    show ((Pattern.parse "file:y").toOption.map fun tree => _) = _
    rw [hy]
    rfl
  rw [Workspace.readScopes, hscopes]
  simp only [List.filterMap_cons, hhidden, hhiding, List.filterMap_nil]

/-- The two scopes have distinct pairs of a holder and a name. -/
theorem distinct_clashWorkspace :
    (clashWorkspace.readScopes.map fun n => (n.holder.id, n.scope.name)).Nodup := by
  rw [readScopes_clashWorkspace]
  decide

/-- When the last one wins, the second scope is there and the first one is not. -/
theorem hiding_scope_kept :
    (clashWorkspace.readScopes.map fun n => (n.holder.id, n.scope.name)).Nodup ∧
      ∃ catalog, Snapshot.build clashWorkspace [] .lastWins [] = .ok catalog ∧
        catalog.Holds hidingScope ∧ ¬ catalog.Holds hiddenScope := by
  obtain ⟨catalog, hbuild, hholds, -, -⟩ :=
    named_scopes_kept clashWorkspace [] (by simp) .lastWins [] distinct_clashWorkspace
  rw [readScopes_clashWorkspace] at hholds
  refine ⟨distinct_clashWorkspace, catalog, hbuild, (hholds hidingScope (by simp)).mpr rfl,
    fun hhidden => ?_⟩
  have hsame : some hidingScope = some hiddenScope := (hholds hiddenScope (by simp)).mp hhidden
  exact absurd (congrArg (fun n => n.holder.id) (Option.some.inj hsame)) (by decide)

/-- By default the first one wins: a valid manifest names both scopes, and the second one is not
there. -/
theorem named_scope_hidden :
    Workspace.ofManifest clashManifest = .ok clashWorkspace ∧
      (clashWorkspace.readScopes.map fun n => (n.holder.id, n.scope.name)).Nodup ∧
      ∃ catalog, Snapshot.build clashWorkspace [] .firstWins ({} : Settings).familyOrder =
        .ok catalog ∧ hidingScope ∈ clashWorkspace.readScopes ∧ ¬ catalog.Holds hidingScope := by
  obtain ⟨catalog, hbuild⟩ :
      ∃ catalog, Snapshot.build clashWorkspace [] .firstWins ({} : Settings).familyOrder =
        .ok catalog :=
    exists_build_iff.mpr (by simp)
  have hmem : hidingScope ∈ clashWorkspace.readScopes := by simp [readScopes_clashWorkspace]
  refine ⟨rfl, distinct_clashWorkspace, catalog, hbuild, hmem, fun hholds => ?_⟩
  have hsurvivor := (holds_iff_survivor hbuild distinct_clashWorkspace hmem).mp hholds
  rw [readScopes_clashWorkspace] at hsurvivor
  have hsame : some hiddenScope = some hidingScope := hsurvivor
  exact absurd (congrArg (fun n => n.holder.id) (Option.some.inj hsame)) (by decide)

end Catalog

end ScopeAlgebra
