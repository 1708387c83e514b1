import ScopeAlgebra.Engine.Intent
import ScopeAlgebra.Engine.Membership
import ScopeAlgebra.Proofs.Catalog.Redacted
import ScopeAlgebra.Proofs.Engine.Leniency
import ScopeAlgebra.Proofs.Program.Evaluation

/-!
# The focused file stays hidden

The file that the editor shows is in the catalog, as a scope that needs input. Where input is not
allowed, no answer of the engine depends on which file it is (`focus_irrelevant`): snapshots that
are taken while different files are shown differ in nothing but the predicates that need input
(`catalog_focusing`), and those are out of reach.
-/

namespace ScopeAlgebra

/-- A workspace in which the editor shows the file with a url. -/
def Workspace.focusing (ws : Workspace) (url : String) : Workspace :=
  { ws with currentFile? := some url }

/-- A provider contributes the same scopes whichever file is shown. -/
def Provider.IgnoresFocus (ws : Workspace) (p : Provider) : Prop :=
  ∀ url url', p.collect (ws.focusing url) = p.collect (ws.focusing url')

/-- An engine over a workspace in which the editor shows the file with a url. -/
def Engine.focusing (e : Engine) (url : String) : Engine :=
  { e with workspace := e.workspace.focusing url }

variable {ws : Workspace} {providers : List Provider} {url url' : String}

/-! ## What does not depend on the focus -/

namespace Workspace

/-- A module that was seen is not visited again. -/
theorem visit_of_mem {seen pending : List String} {name : String} (hseen : name ∈ seen) :
    ws.visit seen (name :: pending) = ws.visit seen pending := by
  rw [visit, dif_pos hseen]

/-- A name without a module leads nowhere. -/
theorem visit_of_none {seen pending : List String} {name : String} (hseen : name ∉ seen)
    (hm : ws.findModule? name = none) :
    ws.visit seen (name :: pending) = ws.visit (name :: seen) pending := by
  rw [visit, dif_neg hseen]
  split
  · rfl
  next m hsome =>
    rw [hm] at hsome
    contradiction

/-- A module leads to its dependencies, in front of what is pending. -/
theorem visit_of_some {seen pending : List String} {name : String} {m : Module}
    (hseen : name ∉ seen) (hm : ws.findModule? name = some m) :
    ws.visit seen (name :: pending) = ws.visit (name :: seen) (m.dependencies ++ pending) := by
  rw [visit, dif_neg hseen]
  split
  next hnone =>
    rw [hm] at hnone
    contradiction
  next m' hsome =>
    obtain rfl : m' = m := Option.some.inj (hsome.symm.trans hm)
    rfl

/-- A visit follows the modules only. -/
theorem visit_focusing (seen pending : List String) :
    (ws.focusing url).visit seen pending = ws.visit seen pending := by
  -- The cases are those of the visit: nothing pending, a name seen before, one without a module,
  -- and a module.
  induction seen, pending using Workspace.visit.induct ws with
  | case1 seen => rw [visit, visit]
  | case2 seen name pending hseen ih => rw [visit_of_mem hseen, visit_of_mem hseen, ih]
  | case3 seen name pending hseen hnone ih =>
    have hfocus : (ws.focusing url).findModule? name = none := hnone
    rw [visit_of_none hseen hfocus, visit_of_none hseen hnone, ih]
  | case4 seen name pending hseen m hm ih =>
    have hfocus : (ws.focusing url).findModule? name = some m := hm
    rw [visit_of_some hseen hfocus, visit_of_some hseen hm, ih]

/-- The scope of a module does not depend on the focus. -/
theorem moduleScope_focusing (m : Module) (flavor : ModuleFlavor) :
    (ws.focusing url).moduleScope m flavor = ws.moduleScope m flavor := by
  have hmodules (m : Module) :
      (ws.focusing url).scopeModules m flavor = ws.scopeModules m flavor := by
    simp only [scopeModules, dependencyClosure, visit_focusing]
  have hlibraries : (ws.focusing url).scopeLibraries m flavor = ws.scopeLibraries m flavor := by
    rw [scopeLibraries, scopeLibraries, hmodules]
    rfl
  rw [moduleScope, moduleScope, hmodules, hlibraries]

end Workspace

namespace Atom

variable {catalog : Snapshot} {allow : Bool} (a : Atom)

/-- Against one catalog, the normal form of an atom does not depend on the focus. -/
theorem normalize_focusing :
    a.normalize catalog (ws.focusing url) allow = a.normalize catalog ws allow := rfl

/-- Against one catalog, what an atom resolves to does not depend on the focus. -/
theorem resolve_focusing :
    a.resolve catalog (ws.focusing url) allow = a.resolve catalog ws allow := by
  have hmodule : a.resolveModule (ws.focusing url) = a.resolveModule ws := by
    simp only [resolveModule, Workspace.moduleScope_focusing]
    rfl
  rw [resolve, resolve, resolvePayload, resolvePayload, hmodule]
  rfl

end Atom

/-! ## Snapshots under different files -/

/-- A contribution without the predicates that need input. -/
def Contribution.redacted (c : Contribution) : Contribution :=
  { c with records := c.records.map Record.redacted }

/-- Contributions lose their predicates one by one. -/
theorem Contribution.redacted_append (c c' : Contribution) :
    (c.append c').redacted = c.redacted.append c'.redacted := by
  simp [redacted, append]

namespace Catalog

/-- The scope of the focused file needs input, so its record does not tell the file once
redacted. -/
theorem redacted_predefinedRecord (scope : StandardScope) :
    ((ws.focusing url).standardScope? scope).map (Record.redacted ∘ predefinedRecord) =
      ((ws.focusing url').standardScope? scope).map (Record.redacted ∘ predefinedRecord) := by
  cases scope <;> rfl

/-- The presets differ in the file they name, and only in the predicate that tells it. -/
theorem redacted_standardFamily :
    (standardFamily (ws.focusing url)).redacted = (standardFamily (ws.focusing url')).redacted := by
  have hscopes (focused : String) :
      (standardFamily (ws.focusing focused)).records.map Record.redacted =
      (Vocabulary.all : List StandardScope).filterMap (fun scope =>
        ((ws.focusing focused).standardScope? scope).map (Record.redacted ∘ predefinedRecord)) ++
      ws.extraPresets.map (Record.redacted ∘ predefinedRecord) := by
    simp only [standardFamily, Workspace.predefinedScopes, List.map_append,
      List.map_filterMap, List.map_map, Option.map_map]
    rfl
  have hfocus : (fun scope => ((ws.focusing url).standardScope? scope).map
      (Record.redacted ∘ predefinedRecord)) =
      fun scope => ((ws.focusing url').standardScope? scope).map
        (Record.redacted ∘ predefinedRecord) := by
    funext scope
    exact redacted_predefinedRecord scope
  rw [Contribution.redacted, Contribution.redacted, hscopes url, hscopes url', hfocus]
  rfl

/-- Providers that ignore the focus contribute the same. -/
theorem providerFamily_focusing (h : ∀ p ∈ providers, p.IgnoresFocus ws) :
    providerFamily (ws.focusing url) providers = providerFamily (ws.focusing url') providers := by
  induction providers with
  | nil => rfl
  | cons p rest ih =>
    obtain ⟨hp, hrest⟩ := List.forall_mem_cons.mp h
    rw [providerFamily, providerFamily, ofProvider, ofProvider, hp url url', ih hrest]

/-- The family of modules does not depend on the focus. -/
theorem moduleFamily_focusing : moduleFamily (ws.focusing url) = moduleFamily ws := by
  have hrecord (m : Module) : moduleRecord (ws.focusing url) m = moduleRecord ws m := by
    funext flavor
    rw [moduleRecord, moduleRecord, Workspace.moduleScope_focusing]
  rw [moduleFamily, moduleFamily]
  simp only [hrecord]
  rfl

/-- What a family contributes does not depend on the focus, but for predicates that need input. -/
theorem redacted_ofFamily (h : ∀ p ∈ providers, p.IgnoresFocus ws) (family : CatalogFamily) :
    (ofFamily (ws.focusing url) providers family).map Contribution.redacted =
      (ofFamily (ws.focusing url') providers family).map Contribution.redacted := by
  -- Only the presets look at the focus; providers are assumed not to.
  cases family with
  | standard => exact congrArg Except.ok redacted_standardFamily
  | provider => rw [ofFamily, ofFamily, providerFamily_focusing h]
  | named => rfl
  | module => rw [ofFamily, ofFamily, moduleFamily_focusing, moduleFamily_focusing]

/-- What all families contribute does not depend on the focus, predicates that need input aside. -/
theorem redacted_ofFamilies (h : ∀ p ∈ providers, p.IgnoresFocus ws)
    (families : List CatalogFamily) :
    (ofFamilies (ws.focusing url) providers families).map Contribution.redacted =
      (ofFamilies (ws.focusing url') providers families).map Contribution.redacted := by
  -- Family by family: the first ones are alike, and so are the rest behind them.
  induction families with
  | nil => rfl
  | cons family rest ih =>
    rw [ofFamilies, ofFamilies, map_bind, map_bind]
    refine bind_eq_of_map_eq (redacted_ofFamily h family) fun first first' hfirst => ?_
    rw [map_bind, map_bind]
    refine bind_eq_of_map_eq ih fun more more' hmore => ?_
    show Except.ok (first.append more).redacted = Except.ok (first'.append more').redacted
    rw [Contribution.redacted_append, hfirst, hmore, ← Contribution.redacted_append]

/-- Snapshots that are taken while different files are shown differ in nothing but predicates that
need input. -/
theorem redacted_build (h : ∀ p ∈ providers, p.IgnoresFocus ws) (policy : CollisionPolicy)
    (order : List CatalogFamily) :
    (Snapshot.build (ws.focusing url) providers policy order).map Snapshot.redacted =
      (Snapshot.build (ws.focusing url') providers policy order).map Snapshot.redacted := by
  rw [Snapshot.build, Snapshot.build, map_bind, map_bind]
  refine bind_eq_of_map_eq (redacted_ofFamilies h _) fun all all' hall => ?_
  obtain ⟨hrecords, hdiagnostics⟩ :
      all.records.map Record.redacted = all'.records.map Record.redacted ∧
      all.diagnostics = all'.diagnostics := Contribution.mk.inj hall
  show Except.ok (⟨(Registry.ofList policy all.records).map Record.redacted,
      all.diagnostics.eraseDups⟩ : Snapshot) =
    Except.ok ⟨(Registry.ofList policy all'.records).map Record.redacted,
      all'.diagnostics.eraseDups⟩
  rw [← Registry.ofList_redacted, ← Registry.ofList_redacted, hrecords, hdiagnostics]

end Catalog

/-! ## The answers of the engine -/

namespace Engine

variable {e : Engine} {catalog catalog' : Snapshot}

/-- The catalogs of two foci are alike but for predicates that need input. -/
theorem catalog_focusing (h : ∀ p ∈ e.providers, p.IgnoresFocus e.workspace) :
    (e.focusing url).catalog.map Snapshot.redacted =
      (e.focusing url').catalog.map Snapshot.redacted := by
  have hbuild : (Snapshot.build (e.workspace.focusing url) e.providers e.settings.collisions
      e.settings.familyOrder).map Snapshot.redacted =
      (Snapshot.build (e.workspace.focusing url') e.providers
        e.settings.collisions e.settings.familyOrder).map Snapshot.redacted :=
    Catalog.redacted_build h e.settings.collisions e.settings.familyOrder
  show ((Snapshot.build (e.workspace.focusing url) e.providers e.settings.collisions
      e.settings.familyOrder).mapError EngineError.providerInterrupted).map Snapshot.redacted =
    ((Snapshot.build (e.workspace.focusing url') e.providers e.settings.collisions
      e.settings.familyOrder).mapError EngineError.providerInterrupted).map Snapshot.redacted
  rw [map_mapError, map_mapError, hbuild]

/-- A request compiles alike where atoms have the same normal forms and resolve alike. -/
theorem compileWith_congr {cx cx' : Program.Context} {r : Request} (halike : cx.Alike cx')
    (hnormal : ∀ a : Atom, a.normalize cx.catalog cx.workspace cx.allowInteractive = a.normalize
      cx'.catalog cx'.workspace cx'.allowInteractive) : compileWith cx r = compileWith cx' r := by
  have hatoms : normalizeAtoms cx.policy cx.catalog cx.workspace cx.allowInteractive r.atoms =
      normalizeAtoms cx'.policy cx'.catalog cx'.workspace cx'.allowInteractive r.atoms := by
    rw [halike.policy]
    exact normalizeAtoms_congr hnormal r.atoms
  simp only [compileWith, hatoms, halike.evaluate_eq]

variable (hsame : catalog.redacted = catalog'.redacted)

include hsame

/-- Where input is not allowed, atoms have the same normal forms whichever file is shown. -/
theorem normalize_eq_of_redacted (a : Atom) :
    a.normalize catalog (e.focusing url).workspace false =
      a.normalize catalog' (e.focusing url').workspace false :=
  calc a.normalize catalog (e.focusing url).workspace false
    _ = a.normalize catalog e.workspace false := a.normalize_focusing
    _ = a.normalize catalog.redacted e.workspace false := a.normalize_redacted.symm
    _ = a.normalize catalog'.redacted e.workspace false := by rw [hsame]
    _ = a.normalize catalog' e.workspace false := a.normalize_redacted
    _ = a.normalize catalog' (e.focusing url').workspace false := a.normalize_focusing.symm

/-- Where input is not allowed, atoms resolve to the same predicates whichever file is shown. -/
theorem resolve_eq_of_redacted (a : Atom) :
    a.resolve catalog (e.focusing url).workspace false =
      a.resolve catalog' (e.focusing url').workspace false :=
  calc a.resolve catalog (e.focusing url).workspace false
    _ = a.resolve catalog e.workspace false := a.resolve_focusing
    _ = a.resolve catalog.redacted e.workspace false := a.resolve_redacted.symm
    _ = a.resolve catalog'.redacted e.workspace false := by rw [hsame]
    _ = a.resolve catalog' e.workspace false := a.resolve_redacted
    _ = a.resolve catalog' (e.focusing url').workspace false := a.resolve_focusing.symm

/-- Contexts in which input is not allowed are alike whichever file is shown. -/
theorem alike_contextFor {r : Request}
    (hallow : r.allowInteractive?.getD e.settings.allowInteractive = false)
    (strict? : Option Bool) :
    ((e.focusing url).contextFor r strict? catalog).Alike
      ((e.focusing url').contextFor r strict? catalog') := by
  refine ⟨fun a => ?_, rfl, rfl⟩
  show a.resolve catalog (e.focusing url).workspace
      (r.allowInteractive?.getD e.settings.allowInteractive) =
    a.resolve catalog' (e.focusing url').workspace
      (r.allowInteractive?.getD e.settings.allowInteractive)
  rw [hallow]
  exact resolve_eq_of_redacted hsame a

/-- Compiling against catalogs that are alike gives the same when input is not allowed. -/
theorem compileWith_eq_of_redacted {r : Request}
    (hallow : r.allowInteractive?.getD e.settings.allowInteractive = false)
    (strict? : Option Bool) :
    compileWith ((e.focusing url).contextFor r strict? catalog) r =
      compileWith ((e.focusing url').contextFor r strict? catalog') r := by
  refine compileWith_congr (alike_contextFor hsame hallow strict?) fun a => ?_
  show a.normalize catalog (e.focusing url).workspace
      (r.allowInteractive?.getD e.settings.allowInteractive) =
    a.normalize catalog' (e.focusing url').workspace
      (r.allowInteractive?.getD e.settings.allowInteractive)
  rw [hallow]
  exact normalize_eq_of_redacted hsame a

omit hsame

/-- The files of the workspace that a scope contains, and those that its search plan selects. -/
def selections (e : Engine) (scope : Resolved) : List File × List File :=
  (e.workspace.files.filter scope.predicate.contains,
    (SearchPlan.ofResolved scope Workspace.everything).select e.workspace.files)

/-- Engines that cannot be told apart by what they list, nor by any other answer where input is not
allowed. -/
structure Indistinct (e e' : Engine) : Prop where
  list : ∀ allow?, e.list allow? = e'.list allow?
  compile : ∀ r strict?, r.allowInteractive?.getD e.settings.allowInteractive = false →
    e.compile r strict? = e'.compile r strict?
  resolveRequest : ∀ r strict?, r.allowInteractive?.getD e.settings.allowInteractive = false →
    e.resolveRequest r strict? = e'.resolveRequest r strict?
  resolve : ∀ d allow? strict?, allow?.getD e.settings.allowInteractive = false →
    e.resolve d allow? strict? = e'.resolve d allow? strict?
  recompile : ∀ d allow?, allow?.getD e.settings.allowInteractive = false →
    e.recompile d allow? = e'.recompile d allow?
  /-- Whatever scope is resolved, it contains the same files, and its search plan selects the
  same. -/
  selections : ∀ scope, e.selections scope = e'.selections scope
  containsFile : ∀ d url allow?, allow?.getD e.settings.allowInteractive = false →
    e.containsFile d url allow? = e'.containsFile d url allow?
  filterFiles : ∀ d urls allow?, allow?.getD e.settings.allowInteractive = false →
    e.filterFiles d urls allow? = e'.filterFiles d urls allow?
  findByIntent : ∀ intent limit allow?, e.findByIntent intent limit allow? =
    e'.findByIntent intent limit allow?

section

variable (h : ∀ p ∈ e.providers, p.IgnoresFocus e.workspace)

include h

/-- An item does not tell the file, so the same items are listed even where input is allowed. -/
theorem list_focusing (allow? : Option Bool) :
    (e.focusing url).list allow? = (e.focusing url').list allow? := by
  refine bind_eq_of_map_eq (catalog_focusing h) fun catalog catalog' hsame => ?_
  -- Items stay when predicates are taken away, so alike catalogs list the same.
  have hitems : catalog.items (allow?.getD e.settings.allowInteractive) =
      catalog'.items (allow?.getD e.settings.allowInteractive) := by
    rw [← catalog.items_redacted, hsame, catalog'.items_redacted]
  have hdiagnostics : catalog.diagnostics = catalog'.diagnostics := (Snapshot.mk.inj hsame).2
  show Except.ok (⟨catalog.items (allow?.getD e.settings.allowInteractive),
      catalog.diagnostics⟩ : Listing) =
    Except.ok ⟨catalog'.items (allow?.getD e.settings.allowInteractive), catalog'.diagnostics⟩
  rw [hitems, hdiagnostics]

/-- A request is evaluated alike whichever file is shown. -/
theorem resolveRequest_focusing {r : Request}
    (hallow : r.allowInteractive?.getD e.settings.allowInteractive = false)
    (strict? : Option Bool) :
    (e.focusing url).resolveRequest r strict? = (e.focusing url').resolveRequest r strict? :=
  bind_eq_of_map_eq (catalog_focusing h) fun _ _ hsame =>
    (alike_contextFor hsame hallow strict?).evaluate_eq r.tokens r.atoms

/-- A request is compiled alike whichever file is shown. -/
theorem compile_focusing {r : Request}
    (hallow : r.allowInteractive?.getD e.settings.allowInteractive = false)
    (strict? : Option Bool) :
    (e.focusing url).compile r strict? = (e.focusing url').compile r strict? :=
  bind_eq_of_map_eq (catalog_focusing h) fun _ _ hsame =>
    compileWith_eq_of_redacted hsame hallow strict?

/-- A descriptor is evaluated alike whichever file is shown. -/
theorem resolve_focusing {allow? : Option Bool}
    (hallow : allow?.getD e.settings.allowInteractive = false) (d : Descriptor)
    (strict? : Option Bool) :
    (e.focusing url).resolve d allow? strict? = (e.focusing url').resolve d allow? strict? := by
  have hrequest : (e.focusing url).resolveRequest (requestOf d strict? allow?) none =
      (e.focusing url').resolveRequest (requestOf d strict? allow?) none :=
      resolveRequest_focusing h hallow none
  rw [resolve, resolve, hrequest]

/-- A descriptor is compiled again alike whichever file is shown. -/
theorem recompile_focusing {allow? : Option Bool}
    (hallow : allow?.getD e.settings.allowInteractive = false) (d : Descriptor) :
    (e.focusing url).recompile d allow? = (e.focusing url').recompile d allow? := by
  have hcompile : (e.focusing url).compile (requestOf d (some true) allow?) none =
      (e.focusing url').compile (requestOf d (some true) allow?) none :=
      compile_focusing h hallow none
  rw [recompile, recompile, hcompile]

end

/-- Where input is not allowed, no answer of the engine depends on which file the editor shows, as
long as the scopes of providers do not: descriptors, scopes, the files that these contain and the
errors are the same. -/
theorem focus_irrelevant (e : Engine) (url url' : String)
    (h : ∀ p ∈ e.providers, p.IgnoresFocus e.workspace) :
    Indistinct (e.focusing url) (e.focusing url') where
  list allow? := list_focusing h allow?
  compile r strict? hallow := compile_focusing h hallow strict?
  resolveRequest r strict? hallow := resolveRequest_focusing h hallow strict?
  resolve d allow? strict? hallow := resolve_focusing h hallow d strict?
  recompile d allow? hallow := recompile_focusing h hallow d
  selections scope := rfl
  containsFile d fileUrl allow? hallow := by
    rw [containsFile, containsFile, resolve_focusing h hallow]
    rfl
  filterFiles d urls allow? hallow := by
    rw [filterFiles, filterFiles, resolve_focusing h hallow]
    rfl
  findByIntent intent limit allow? := by
    rw [findByIntent, findByIntent, list_focusing h allow?]

/-- An engine with two files and a provider of their urls. -/
def twoFiles : Engine where
  workspace := {
    files := [⟨"a", "a", none, .source, none⟩, ⟨"b", "b", none, .source, none⟩]
    modules := []
    urls_nodup := by decide
    names_nodup := List.nodup_nil }
  providers := [{
    implementation := "plugin.Urls"
    listScopes? := some fun ws => .offers [.scope 0 (.ofUrls "Both" (ws.files.map File.url))] }]

/-- It cannot be told whether the first or the second file is shown. -/
theorem indistinct_twoFiles :
    (∀ p ∈ twoFiles.providers, p.IgnoresFocus twoFiles.workspace) ∧
      Indistinct (twoFiles.focusing "a") (twoFiles.focusing "b") := by
  have hignores : ∀ p ∈ twoFiles.providers, p.IgnoresFocus twoFiles.workspace := by
    intro p hp url url'
    obtain rfl := List.mem_singleton.mp hp
    rfl
  exact ⟨hignores, focus_irrelevant twoFiles "a" "b" hignores⟩

end Engine

end ScopeAlgebra
