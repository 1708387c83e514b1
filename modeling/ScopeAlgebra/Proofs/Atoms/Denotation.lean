import ScopeAlgebra.Proofs.Atoms.Lacking
import ScopeAlgebra.Proofs.Catalog.Families
import ScopeAlgebra.Proofs.Pattern.Render

/-!
# Normal forms keep the meaning

An atom is evaluated as it is written or in its normal form. The first reads its payload in the
workspace, the second may find the same entity in the catalog. `normalize_keeps_meaning` says that
both accept the same files, as long as no two named scopes share a reference id.
-/

namespace ScopeAlgebra.Atom

open Catalog

variable {ws : Workspace} {providers : List Provider} {policy : CollisionPolicy}
  {order : List CatalogFamily} {catalog : Snapshot} {allow : Bool} {a : Atom} {p : Predicate}

/-- An atom has a normal form that stands for the same files. -/
def KeepsMeaning (catalog : Snapshot) (ws : Workspace) (allow : Bool) (a : Atom) (p : Predicate) :
    Prop :=
  ∃ a' q, Normalizes catalog ws allow a a' ∧ Resolves catalog ws allow a' q ∧
    q.shape = p.shape ∧ ∀ f, q.contains f = p.contains f

/-- An atom with a reference that the catalog knows resolves to what it finds there. -/
theorem resolves_of_get? {refId : String} {r : Record} (hkind : a.kind.isAdhoc = false)
    (hid : Text.present? a.refId? = some refId) (hget : catalog.get? refId = some r)
    (hallowed : Snapshot.isAllowed allow r = true) : Resolves catalog ws allow a r.predicate :=
  .reference (resolvesByReference_of_get? hkind hid hget) hid hget hallowed

/-- A text that is not empty is kept. -/
theorem nonEmpty?_of_ne_empty {s : String} (hs : s ≠ "") : nonEmpty? (some s) = some s := by
  simp [nonEmpty?, Option.filter, hs]

/-! ## By reference -/

/-- The normal form of an atom that is looked up is looked up under the same id. -/
theorem keepsMeaning_reference (hbuild : Snapshot.build ws providers policy order = .ok catalog)
    {refId : String} {r : Record} (hby : catalog.resolvesByReference a = true)
    (hid : Text.present? a.refId? = some refId) (hget : catalog.get? refId = some r)
    (hallowed : Snapshot.isAllowed allow r = true) :
    KeepsMeaning catalog ws allow a r.predicate := by
  obtain ⟨horigin, rfl⟩ := origin_of_get? hbuild hget
  refine ⟨a.enrich r.item, r.predicate, .reference hby hid hget hallowed, ?_, rfl, fun f => rfl⟩
  exact resolves_of_get? horigin.isAdhoc_kind (Text.present?_of_present? hid) hget hallowed

/-! ## By payload -/

/-- A standard scope is found in the catalog under the id of the normal form. -/
theorem keepsMeaning_standard {scopeId : String} {r : Record}
    (hby : catalog.resolvesByReference a = false) (hkind : a.kind = .standard)
    (hid : Text.present? a.standardId? = some scopeId)
    (hget : catalog.get? (RefId.standard scopeId) = some r)
    (hallowed : Snapshot.isAllowed allow r = true) :
    KeepsMeaning catalog ws allow a r.predicate := by
  refine ⟨_, r.predicate, .standard hby hkind hid, ?_, rfl, fun f => rfl⟩
  have hrefId : Text.present? (some (RefId.standard scopeId)) = some (RefId.standard scopeId) :=
    RefId.present?_standard (Text.present?_of_present? hid)
  exact resolves_of_get? (by rw [hkind]; rfl) hrefId hget hallowed

/-- A module is found in the catalog under the id of the normal form. -/
theorem keepsMeaning_module (hbuild : Snapshot.build ws providers policy order = .ok catalog)
    {name : String} {flavor : ModuleFlavor} {m : Module}
    (hby : catalog.resolvesByReference a = false) (hkind : a.kind = .module)
    (hname : Text.present? a.moduleName? = some name) (hflavor : a.flavor? = some flavor)
    (hm : ws.findModule? name = some m) :
    KeepsMeaning catalog ws allow a (ws.moduleScope m flavor) := by
  have hmem : m ∈ ws.modules := List.mem_of_find?_eq_some hm
  obtain rfl : m.name = name := by simpa using List.find?_some hm
  refine ⟨_, _, .module hby hkind hname hflavor, ?_, rfl, fun f => rfl⟩
  have hget : catalog.get? (RefId.module m.name flavor) = some (moduleRecord ws m flavor) :=
    get?_module hbuild hmem flavor
  exact resolves_of_get? (by rw [hkind]; rfl) RefId.present?_module hget rfl

/-- The holder that decides about an atom's named scope, as the atom names it or as the only one. -/
theorem exists_holder {name : String} {scope : NamedScope}
    (hby : catalog.resolvesByReference a = false) (hkind : a.kind = .namedPattern)
    (hname : Text.present? a.scopeName? = some name)
    (hholder : Text.present? a.holderId? = nonEmpty? a.holderId?)
    (hscope : findScope ws a.holderId? name = .ok (some scope)) :
    ∃ holder ∈ ws.holders, scope ∈ holder.scopes ∧ scope.name = name ∧
      Normalizes catalog ws allow a (a.withScope holder.id name) := by
  -- A holder keeps the scope under the name that it is asked for.
  have hget {holder : Holder} (h : holder.get? name = some scope) :
      scope ∈ holder.scopes ∧ scope.name = name :=
    ⟨List.mem_of_find?_eq_some h, by simpa using List.find?_some h⟩
  unfold findScope at hscope
  rw [← hholder] at hscope
  -- The atom names its holder, or exactly one holder has a scope of that name.
  cases hid : Text.present? a.holderId? with
  | some holderId =>
    simp only [hid, Except.ok.injEq, Option.bind_eq_some_iff] at hscope
    obtain ⟨holder, hfind, hscope⟩ := hscope
    obtain rfl : holder.id = holderId := by simpa using List.find?_some hfind
    exact ⟨holder, List.mem_of_find?_eq_some hfind, (hget hscope).1, (hget hscope).2,
      .named hby hkind hname hid⟩
  | none =>
    simp only [hid] at hscope
    split at hscope
    · simp at hscope
    next holder honly =>
      have hmem : holder ∈ ws.holdersOf name := by simp [honly]
      have hscope : holder.get? name = some scope := Except.ok.inj hscope
      exact ⟨holder, (List.mem_filter.mp hmem).1, (hget hscope).1, (hget hscope).2,
        .onlyHolder hby hkind hname hid honly⟩
    · contradiction

/-- A named scope is found in the catalog under the id of the normal form, when no other one has
it. -/
theorem keepsMeaning_named (hbuild : Snapshot.build ws providers policy order = .ok catalog)
    (hapart : NamedApart ws) {name text : String} {scope : NamedScope}
    (hby : catalog.resolvesByReference a = false) (hkind : a.kind = .namedPattern)
    (hname : Text.present? a.scopeName? = some name)
    (hholder : Text.present? a.holderId? = nonEmpty? a.holderId?)
    (hscope : findScope ws a.holderId? name = .ok (some scope))
    (htext : scope.pattern? = some text)
    (hp : Workspace.patternScope text (some scope.displayName) = .ok p) :
    KeepsMeaning catalog ws allow a p := by
  obtain ⟨holder, hmem, hmemscope, rfl, hnormal⟩ := exists_holder hby hkind hname hholder hscope
  refine ⟨_, p, hnormal, ?_, rfl, fun f => rfl⟩
  have hget : catalog.get? (RefId.named holder.id scope.name) = some (namedRecord holder scope p) :=
    get?_named hbuild hapart hmem hmemscope htext hp
  have hrefId : Text.present? (some (RefId.named holder.id scope.name)) =
      some (RefId.named holder.id scope.name) :=
    RefId.present?_named (Text.present?_of_present? hname)
  have hadhoc : (a.withScope holder.id scope.name).kind.isAdhoc = false := by
    show a.kind.isAdhoc = false
    rw [hkind]
    rfl
  exact resolves_of_get? hadhoc hrefId hget rfl

/-- The predicate of a pattern without a name is shown under the canonical text. -/
theorem patternScope_none_eq_ok {text : String} :
    Workspace.patternScope text none = .ok p ↔
      ∃ t, Pattern.parse text = .ok t ∧ .filter t.render t.selects = p := by
  simp only [Workspace.patternScope, bind_eq_ok, pure, Except.pure, Except.ok.injEq]

/-- The canonical text of a pattern is read as the same pattern. -/
theorem keepsMeaning_pattern {text : String} (hkind : a.kind = .adhocPattern)
    (htext : Text.present? a.pattern? = some text) (hp : Workspace.patternScope text none = .ok p) :
    KeepsMeaning catalog ws allow a p := by
  obtain ⟨t, ht, rfl⟩ := patternScope_none_eq_ok.mp hp
  have hback : Pattern.parse t.render = .ok t := (Pattern.canonical_of_parse ht).parse_render
  -- The empty text is no pattern, so the canonical text is a payload that is not skipped.
  have hne : t.render ≠ "" := by
    intro h
    rw [h] at hback
    contradiction
  have hcanonical : Pattern.canonical text = .ok t.render :=
    Pattern.canonical_eq_ok.mpr ⟨t, ht, rfl⟩
  refine ⟨a.withPattern t.render, _, .pattern hkind htext hcanonical, ?_, rfl, fun f => rfl⟩
  have htext : nonEmpty? (a.withPattern t.render).pattern? = some t.render :=
    nonEmpty?_of_ne_empty hne
  refine .pattern ?_ htext (patternScope_none_eq_ok.mpr ⟨t, hback, rfl⟩)
  exact hkind

/-- A directory is read from the trimmed url, which is the url itself. -/
theorem keepsMeaning_directory {url : String} (hkind : a.kind = .directory)
    (hurl : Text.present? a.directoryUrl? = some url)
    (hp : ws.directoryScope url a.recursive = .ok p) : KeepsMeaning catalog ws allow a p := by
  refine ⟨_, p, .directory hkind hurl, ?_, rfl, fun f => rfl⟩
  refine .directory ?_ (nonEmpty?_of_ne_empty (Text.ne_empty_of_present? hurl)) ?_
  · exact hkind
  · exact hp

/-- A set of files is a scope exactly when all its urls are files of the workspace. -/
theorem filesScope_eq_ok {urls : List String} : ws.filesScope urls = .ok p ↔
    (∀ url ∈ urls, (ws.findFile? url).isSome) ∧ .ofUrls (ws.filesScopeName urls) urls = p := by
  unfold Workspace.filesScope
  cases h : urls.find? fun url => (ws.findFile? url).isNone with
  | none =>
    have hfound : ∀ url ∈ urls, (ws.findFile? url).isSome := by
      simpa [Option.isSome_iff_ne_none] using h
    simp only [Except.ok.injEq]
    exact ⟨fun hp => ⟨hfound, hp⟩, And.right⟩
  | some url =>
    have hmissing : ws.findFile? url = none := by simpa using List.find?_some h
    simp only [reduceCtorEq, false_iff]
    rintro ⟨hfound, -⟩
    simpa [hmissing] using hfound url (List.mem_of_find?_eq_some h)

/-- Sorting urls and dropping repetitions keeps the set of files. -/
theorem keepsMeaning_files (htrimmed : a.Trimmed) (hkind : a.kind = .fileSet)
    (hurls : a.fileUrls ≠ []) (hp : ws.filesScope a.fileUrls = .ok p) :
    KeepsMeaning catalog ws allow a p := by
  obtain ⟨hfound, rfl⟩ := filesScope_eq_ok.mp hp
  have hcanonical : canonicalUrls a.fileUrls ≠ [] := htrimmed.canonicalUrls_eq_nil_iff.not.mpr hurls
  let q : Predicate := .ofUrls (ws.filesScopeName (canonicalUrls a.fileUrls))
    (canonicalUrls a.fileUrls)
  have hscope : ws.filesScope (canonicalUrls a.fileUrls) = .ok q :=
    filesScope_eq_ok.mpr ⟨fun url hurl => hfound url (htrimmed.mem_canonicalUrls.mp hurl), rfl⟩
  refine ⟨_, q, .files hkind hcanonical, ?_, rfl, fun f => ?_⟩
  · refine .files ?_ ?_ ?_
    · exact hkind
    · exact hcanonical
    · exact hscope
  -- Canonical urls are the given ones in another order, so they contain the same files.
  show (canonicalUrls a.fileUrls).contains f.url = a.fileUrls.contains f.url
  rw [Bool.eq_iff_iff, List.contains_iff_mem, List.contains_iff_mem]
  exact htrimmed.mem_canonicalUrls

/-! ## Atoms of any kind -/

/-- An atom that resolves has a normal form that stands for the same files. -/
theorem Resolves.keepsMeaning (hbuild : Snapshot.build ws providers policy order = .ok catalog)
    (hapart : NamedApart ws) (htrimmed : a.Trimmed) (h : Resolves catalog ws allow a p) :
    KeepsMeaning catalog ws allow a p := by
  have hpresent (s? : Option String) (hs : s? ∈ a.texts) : Text.present? s? = nonEmpty? s? :=
    htrimmed.present?_eq_nonEmpty? hs
  -- The rules by payload take texts as they are written and normal forms take them trimmed, which
  -- is the same for a trimmed atom.
  cases h with
  | reference hby hid hget hallowed => exact keepsMeaning_reference hbuild hby hid hget hallowed
  | standard hby hkind hid hget hallowed =>
    rw [← hpresent a.standardId? (by simp [texts])] at hid
    exact keepsMeaning_standard hby hkind hid hget hallowed
  | module hby hkind hname hflavor hm =>
    rw [← hpresent a.moduleName? (by simp [texts])] at hname
    exact keepsMeaning_module hbuild hby hkind hname hflavor hm
  | named hby hkind hname hscope htext hp =>
    rw [← hpresent a.scopeName? (by simp [texts])] at hname
    exact keepsMeaning_named hbuild hapart hby hkind hname (hpresent a.holderId? (by simp [texts]))
      hscope htext hp
  | pattern hkind htext hp =>
    rw [← hpresent a.pattern? (by simp [texts])] at htext
    exact keepsMeaning_pattern hkind htext hp
  | directory hkind hurl hp =>
    rw [← hpresent a.directoryUrl? (by simp [texts])] at hurl
    exact keepsMeaning_directory hkind hurl hp
  | files hkind hurls hp => exact keepsMeaning_files htrimmed hkind hurls hp

/-- An atom that resolves has a normal form that resolves to a predicate of the same shape which
accepts the same files, and normalization refuses an atom as malformed exactly when resolution
does. -/
theorem normalize_keeps_meaning (hbuild : Snapshot.build ws providers policy order = .ok catalog)
    (hapart : NamedApart ws) (allow : Bool) (a : Atom) (htrimmed : a.Trimmed) :
    (∀ p, a.resolve catalog ws allow = .ok p →
      ∃ a' q, a.normalizeUnder .strict catalog ws allow = .ok (a', []) ∧
        a'.resolve catalog ws allow = .ok q ∧ q.shape = p.shape ∧
          ∀ f, q.contains f = p.contains f) ∧
      ((∃ e, a.normalizeUnder .strict catalog ws allow = .error e ∧ e.family = .invalidAtom) ↔
        ∃ e, a.resolve catalog ws allow = .error e ∧ (EngineError.ofAtom a.id e).family =
          .invalidAtom) := by
  constructor
  · intro p hp
    obtain ⟨a', q, hnormal, hq, hshape, hcontains⟩ :=
      (resolve_eq_ok.mp hp).keepsMeaning hbuild hapart htrimmed
    refine ⟨a', q, ?_, resolve_eq_ok.mpr hq, hshape, hcontains⟩
    rw [normalizeUnder_strict, normalize_eq_ok.mpr hnormal]
  -- Both sides of the equivalence come down to the atom lacking what it is described by.
  · have hnormalize : (∃ e, a.normalizeUnder .strict catalog ws allow = .error e ∧
        e.family = .invalidAtom) ↔
        Malformed (a.normalize catalog ws allow) := by
      rw [normalizeUnder_strict]
      cases a.normalize catalog ws allow with
      | ok normal => simp
      | error e => simp [Malformed, family_ofAtom]
    have hresolve : (∃ e, a.resolve catalog ws allow = .error e ∧
        (EngineError.ofAtom a.id e).family = .invalidAtom) ↔
        Malformed (a.resolve catalog ws allow) := by
      cases a.resolve catalog ws allow with
      | ok p => simp
      | error e => simp [Malformed, family_ofAtom]
    rw [hnormalize, hresolve, malformed_normalize, malformed_resolve htrimmed]

/-- A workspace with one holder that keeps one named scope. -/
def teamWorkspace : Workspace where
  files := []
  modules := []
  holders := [{ id := "team", scopes := [{ name := "sources", pattern? := some "src:*" }] }]
  urls_nodup := List.nodup_nil
  names_nodup := List.nodup_nil

/-- An atom for a named scope of which the holder is left open. -/
def sourcesAtom : Atom := { id := "a", kind := .namedPattern, scopeName? := some "sources" }

/-- The named scope is read in the workspace and found in the catalog with the same meaning. -/
theorem normalize_keeps_sources :
    ∃ catalog p, Snapshot.build teamWorkspace [] .firstWins [] = .ok catalog ∧
      NamedApart teamWorkspace ∧ sourcesAtom.Trimmed ∧
        sourcesAtom.resolve catalog teamWorkspace false = .ok p ∧
      ∃ a' q, sourcesAtom.normalizeUnder .strict catalog teamWorkspace false = .ok (a', []) ∧
        a'.resolve catalog teamWorkspace false = .ok q ∧ q.shape = p.shape ∧
          ∀ f, q.contains f = p.contains f := by
  obtain ⟨catalog, hbuild⟩ :
      ∃ catalog, Snapshot.build teamWorkspace [] .firstWins [] = .ok catalog := ⟨_, rfl⟩
  have hapart : NamedApart teamWorkspace := by simp [NamedApart, namedScopes, teamWorkspace]
  have htrimmed : sourcesAtom.Trimmed := by
    refine ⟨?_, by simp [sourcesAtom]⟩
    simp only [texts, sourcesAtom, List.mem_cons, List.not_mem_nil, or_false]
    rintro _ (rfl | rfl | rfl | rfl | rfl | rfl | rfl) s ⟨⟩
    decide
  have hclean : Term.Clean ⟨.src, none, "*"⟩ :=
    ⟨by simp, by decide, Pattern.not_mem_globStops_of_all (by decide)⟩
  have hparse : Pattern.parse "src:*" = .ok (.term ⟨.src, none, "*"⟩) :=
    (Pattern.Canonical.term hclean).parse_render
  have hp : sourcesAtom.resolve catalog teamWorkspace false =
      .ok (.filter "sources" (Pattern.selects (.term ⟨.src, none, "*"⟩))) := by
    refine resolve_eq_ok.mpr (.named rfl rfl rfl rfl rfl ?_)
    rw [Workspace.patternScope, hparse]
    rfl
  exact ⟨catalog, _, hbuild, hapart, htrimmed, hp,
    (normalize_keeps_meaning hbuild hapart false sourcesAtom htrimmed).1 _ hp⟩

end ScopeAlgebra.Atom
