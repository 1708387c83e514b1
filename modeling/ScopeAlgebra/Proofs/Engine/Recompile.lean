import ScopeAlgebra.Proofs.Atoms.Settled
import ScopeAlgebra.Proofs.Engine.Leniency

/-!
# Compiling a descriptor again

A strictly compiled descriptor is compiled again from its own atoms, which are normal forms. The
second pass gives the same descriptor exactly when each of them is settled
(`recompile_eq_self_iff`). Not every normal form is: an atom that is described by its payload at
first may be found in the catalog by its reference later.
-/

namespace ScopeAlgebra.Engine

variable {e : Engine} {r : Request} {d : Descriptor} {cx : Program.Context} {mode : FailureMode}

/-- Strict evaluation notes nothing. -/
theorem diagnostics_of_strict {tokens : List Token} {atoms : List Atom} {scope : Resolved}
    (h : Program.evaluate (cx.under .strict mode) tokens atoms = .ok scope) :
    scope.diagnostics = [] := by
  have hsilent : Program.evaluate (cx.under .strict mode) tokens atoms = .ok scope ∧
      scope.diagnostics = [] :=
    Program.evaluate_strict_iff.mp h
  exact hsilent.2

/-- What a descriptor that was compiled strictly is made of. -/
theorem compileWith_strict_eq_ok :
    compileWith (cx.under .strict mode) r = .ok d ↔
      checkDistinct r.atoms = .ok () ∧ Program.check (r.atoms.map Atom.id) r.tokens = .ok () ∧
        ∃ atoms scope, List.Forall₂ (Atom.Normalizes cx.catalog cx.workspace cx.allowInteractive)
          r.atoms atoms ∧ Program.evaluate (cx.under .strict mode) r.tokens atoms = .ok scope ∧
          d = {
            atoms, tokens := r.tokens, displayName := scope.displayName, shape := scope.shape
          } := by
  rw [compileWith_eq_ok]
  refine and_congr_right fun hdistinct => and_congr_right fun _ => ?_
  have hatoms (normals : List Atom) (notes : Diagnostics) :
      normalizeAtoms (cx.under .strict mode).policy cx.catalog cx.workspace
          cx.allowInteractive r.atoms = .ok (normals, notes) ↔
        List.Forall₂ (Atom.Normalizes cx.catalog cx.workspace cx.allowInteractive) r.atoms normals ∧
        notes = [] := by
    rw [normalizeAtoms, hdistinct]
    exact normalizeEach_strict_eq_ok
  constructor
  · rintro ⟨atoms, notes, scope, hnormal, hscope, rfl⟩
    obtain ⟨hall, rfl⟩ := (hatoms atoms notes).mp hnormal
    refine ⟨atoms, scope, hall, hscope, ?_⟩
    rw [mergeDiagnostics_pair_eq_nil.mpr ⟨rfl, diagnostics_of_strict hscope⟩]
  · rintro ⟨atoms, scope, hnormal, hscope, rfl⟩
    refine ⟨atoms, [], scope, (hatoms atoms []).mpr ⟨hnormal, rfl⟩, hscope, ?_⟩
    rw [mergeDiagnostics_pair_eq_nil.mpr ⟨rfl, diagnostics_of_strict hscope⟩]

/-- The atoms of a descriptor that was compiled strictly give the same descriptor again exactly when
each is its own normal form. -/
theorem compileWith_self_iff {mode' : FailureMode} {strict? allow? : Option Bool}
    (h : compileWith (cx.under .strict mode) r = .ok d) :
    compileWith (cx.under .strict mode') (requestOf d strict? allow?) = .ok d ↔
      ∀ a ∈ d.atoms, a.Normalizes cx.catalog cx.workspace cx.allowInteractive a := by
  obtain ⟨hdistinct, hcheck, atoms, scope, hnormal, hscope, rfl⟩ := compileWith_strict_eq_ok.mp h
  -- Normalization keeps the ids, so the program stays well formed.
  have hids : atoms.map Atom.id = r.atoms.map Atom.id := ids_eq_of_normalizes hnormal
  rw [compileWith_strict_eq_ok, ← List.forall₂_same]
  -- A descriptor is given again exactly when its atoms are, for the program and the scope follow
  -- from them.
  constructor
  · rintro ⟨-, -, atoms', scope', hnormal', -, hsame⟩
    obtain rfl : atoms = atoms' := congrArg Descriptor.atoms hsame
    exact hnormal'
  · intro hself
    refine ⟨?_, ?_, atoms, scope, hself, (Program.evaluate_strict_iff.mp hscope).1, rfl⟩
    · show checkDistinct atoms = .ok ()
      rwa [checkDistinct, hids]
    · show Program.check (atoms.map Atom.id) r.tokens = .ok ()
      rwa [hids]

/-- What recompiling a silent descriptor gives is what its atoms compile to. -/
theorem recompile_eq_self {allow? : Option Bool} (hversion : checkVersion d = .ok ())
    (hsilent : d.diagnostics = [])
    (hagain : ∀ again, e.compile (requestOf d (some true) allow?) none = .ok again →
      again.diagnostics = []) :
    e.recompile d allow? = .ok d ↔ e.compile (requestOf d (some true) allow?) none = .ok d := by
  have hmerged (again : Descriptor) (h : again.diagnostics = []) :
      { again with diagnostics := mergeDiagnostics [d.diagnostics, again.diagnostics] } =
      again := by
    rw [mergeDiagnostics_pair_eq_nil.mpr ⟨hsilent, h⟩, ← h]
  constructor
  · intro h
    obtain ⟨_, -, h⟩ := bind_eq_ok.mp h
    obtain ⟨again, hcompile, hsame⟩ := bind_eq_ok.mp h
    have hsame := Except.ok.inj hsame
    rw [hmerged again (hagain again hcompile)] at hsame
    rwa [hsame] at hcompile
  · intro h
    refine bind_eq_ok.mpr ⟨(), hversion, bind_eq_ok.mpr ⟨d, h, ?_⟩⟩
    exact congrArg Except.ok (hmerged d hsilent)

/-- A strictly compiled descriptor is given back unchanged exactly when nothing remains to be done
about its atoms. -/
theorem recompile_eq_self_iff {catalog : Snapshot} {allow? : Option Bool}
    (hcatalog : e.catalog = .ok catalog) (h : e.compile r (some true) = .ok d)
    (hallow : allow?.getD e.settings.allowInteractive = r.allowInteractive?.getD
      e.settings.allowInteractive) :
    e.recompile d allow? = .ok d ↔
      ∀ a ∈ d.atoms, a.Settled catalog (r.allowInteractive?.getD e.settings.allowInteractive) := by
  -- Both passes are strict and see the same sources.
  let cx := e.contextFor r none catalog
  have hcontext : e.contextFor (requestOf d (some true) allow?) none catalog =
      cx.under .strict .emptyScope := by
    show (⟨catalog, e.workspace, allow?.getD e.settings.allowInteractive, .strict,
      .emptyScope⟩ : Program.Context) = _
    rw [hallow]
    rfl
  have hcompile {request : Request} {strict? : Option Bool} {d : Descriptor} :
      e.compile request strict? = .ok d ↔
      compileWith (e.contextFor request strict? catalog) request = .ok d := by
    simp only [compile_eq_ok, hcatalog, Except.ok.injEq, exists_eq_left']
  have hfirst : compileWith (cx.under .strict cx.failureMode) r = .ok d := hcompile.mp h
  obtain ⟨-, -, atoms, scope, hnormal, -, hd⟩ := compileWith_strict_eq_ok.mp hfirst
  have hagain (again : Descriptor)
      (h : e.compile (requestOf d (some true) allow?) none = .ok again) :
      again.diagnostics = [] := by
    rw [hcompile, hcontext] at h
    obtain ⟨-, -, atoms, scope, -, -, rfl⟩ := compileWith_strict_eq_ok.mp h
    rfl
  rw [recompile_eq_self (by rw [hd]; rfl) (by rw [hd]) hagain, hcompile, hcontext,
    compileWith_self_iff hfirst]
  refine forall₂_congr fun a ha => ?_
  -- Every atom of the descriptor is the normal form of one of the request.
  rw [hd] at ha
  obtain ⟨given, -, hgiven⟩ := exists_normalizes_of_mem hnormal ha
  exact Atom.normalizes_self_iff (mapError_eq_ok.mp hcatalog) hgiven

/-! ## An atom that is not settled -/

/-- A workspace without files, modules and holders. -/
def bareWorkspace : Workspace where
  files := []
  modules := []
  urls_nodup := List.nodup_nil
  names_nodup := List.nodup_nil

/-- An engine over the bare workspace. -/
def bareEngine : Engine := { workspace := bareWorkspace }

/-- The standard scopes that are there without anything else. -/
def bareCatalog : Snapshot :=
  { records := bareWorkspace.predefinedScopes.map Catalog.predefinedRecord }

/-- The catalog of the bare engine are the standard scopes. -/
theorem catalog_bareEngine : bareEngine.catalog = .ok bareCatalog := by
  have hmodules : Catalog.moduleFamily bareWorkspace = {} := by
    simp [Catalog.moduleFamily, Catalog.sortedModules, bareWorkspace]
  have hfamilies : Catalog.ofFamilies bareWorkspace [] [.standard, .provider, .named, .module] =
      .ok ⟨bareCatalog.records, []⟩ := by
    simp only [Catalog.ofFamilies, Catalog.ofFamily, hmodules]
    rfl
  have horder : Catalog.completeOrder ({} : Settings).familyOrder =
      [.standard, .provider, .named, .module] := rfl
  have hbuild : Snapshot.build bareWorkspace [] .firstWins ({} : Settings).familyOrder =
      .ok bareCatalog := by
    rw [Snapshot.build, horder, hfamilies]
    rfl
  exact mapError_eq_ok.mpr hbuild

/-- A request for all places, with urls that do not belong to it. -/
def placesRequest (urls : List String) : Request :=
  { atoms := [{ id := "a", kind := .standard, standardId? := some "AllPlaces", fileUrls := urls }]
    tokens := [Token.ofAtom "a"] }

/-- The descriptor of that request. -/
def placesDescriptor (urls : List String) : Descriptor :=
  { atoms := [{
      id := "a", kind := .standard, refId? := some "standard:AllPlaces",
      standardId? := some "AllPlaces", fileUrls := urls }]
    tokens := [Token.ofAtom "a"], displayName := "All Places" }

/-- The first pass leaves the urls as they are. -/
theorem compile_placesRequest (urls : List String) :
    bareEngine.compile (placesRequest urls) (some true) = .ok (placesDescriptor urls) := by
  rw [compile, catalog_bareEngine]
  rfl

/-- The second pass looks the scope up and sorts the urls. -/
theorem recompile_placesDescriptor (urls : List String) :
    bareEngine.recompile (placesDescriptor urls) none =
      .ok (placesDescriptor (canonicalUrls urls)) := by
  have hcompile : bareEngine.compile (requestOf (placesDescriptor urls) (some true) none) none =
      .ok (placesDescriptor (canonicalUrls urls)) := by
    rw [compile, catalog_bareEngine]
    rfl
  refine bind_eq_ok.mpr ⟨(), rfl, bind_eq_ok.mpr ⟨_, hcompile, rfl⟩⟩

/-- Urls in order survive a second pass. -/
theorem recompile_keeps_urls :
    bareEngine.compile (placesRequest ["a", "b"]) (some true) = .ok (placesDescriptor ["a", "b"]) ∧
      bareEngine.recompile (placesDescriptor ["a", "b"]) none =
        .ok (placesDescriptor ["a", "b"]) := by
  have hcompile := compile_placesRequest ["a", "b"]
  refine ⟨hcompile, (recompile_eq_self_iff catalog_bareEngine hcompile rfl).mpr fun a ha => ?_⟩
  obtain rfl := List.mem_singleton.mp ha
  refine ⟨fun refId r _ hid hget => ?_, fun _ _ hkind => (nomatch hkind),
    fun _ hkind => (nomatch hkind)⟩
  cases hid
  have hplaces : bareCatalog.get? "standard:AllPlaces" =
      some (Catalog.standardRecord .allPlaces Workspace.everything) := rfl
  obtain rfl : _ = r := Option.some.inj (hplaces.symm.trans hget)
  exact ⟨rfl, by decide, rfl, rfl⟩

/-- A second pass looks the standard scope up by its reference and sorts the urls that the first one
left alone. -/
theorem recompile_sorts_urls :
    bareEngine.compile (placesRequest ["b", "a"]) (some true) = .ok (placesDescriptor ["b", "a"]) ∧
      bareEngine.recompile (placesDescriptor ["b", "a"]) none = .ok (placesDescriptor ["a", "b"]) ∧
      bareEngine.recompile (placesDescriptor ["b", "a"]) none ≠
        .ok (placesDescriptor ["b", "a"]) := by
  have hsorted : bareEngine.recompile (placesDescriptor ["b", "a"]) none =
      .ok (placesDescriptor ["a", "b"]) :=
    recompile_placesDescriptor ["b", "a"]
  refine ⟨compile_placesRequest ["b", "a"], hsorted, ?_⟩
  rw [hsorted]
  simp [placesDescriptor]

end ScopeAlgebra.Engine
