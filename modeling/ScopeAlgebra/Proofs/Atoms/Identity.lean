import Mathlib.Data.List.Sort
import ScopeAlgebra.Proofs.Atoms.Denotation
import ScopeAlgebra.Proofs.Catalog.Providers
import ScopeAlgebra.Wire.Manifest

/-!
# What reference ids leave open

Normal forms with one reference id stand for the same files, except where the id leaves something
out: that of a directory does not tell whether files further down belong to it, and that of a set of
files is a digest of its urls as lines, of which a url may hold several. `refId_determines_files`
says that nothing else is left open as long as digests do not collide, whether the catalog was made
from the workspace itself or, named scopes apart, from an earlier one.
-/

namespace ScopeAlgebra

/-! ## Ids of the catalog and other ids -/

namespace RefId

/-- Whether an id starts with the word of one of the catalog's families. -/
def IsListed (refId : String) : Prop :=
  ∃ family : CatalogFamily, firstWord refId = (word family).toList

/-- An id is listed only when it starts with the word of a family. -/
theorem not_isListed_of_firstWord {refId : String} {first : List Char}
    (hfirst : firstWord refId = first)
    (hwords : ∀ family ∈ (Vocabulary.all : List CatalogFamily), (word family).toList ≠ first) :
    ¬ IsListed refId := by
  rintro ⟨family, h⟩
  exact hwords family (Vocabulary.mem_all family) (h.symm.trans hfirst)

/-- The catalog lists no pattern. -/
theorem not_isListed_pattern (text : String) : ¬ IsListed (pattern text) :=
  not_isListed_of_firstWord (firstWord_pattern text) (by decide)

/-- The catalog lists no directory. -/
theorem not_isListed_directory (url : String) : ¬ IsListed (directory url) :=
  not_isListed_of_firstWord (firstWord_directory url) (by decide)

/-- The catalog lists no set of files. -/
theorem not_isListed_files (urls : List String) : ¬ IsListed (files urls) :=
  not_isListed_of_firstWord (firstWord_files urls) (by decide)

/-- No pattern has the id of a directory. -/
theorem pattern_ne_directory {text url : String} : pattern text ≠ directory url :=
  ne_of_firstWord (by rw [firstWord_pattern, firstWord_directory]; decide)

/-- No pattern has the id of a set of files. -/
theorem pattern_ne_files {text : String} {urls : List String} : pattern text ≠ files urls :=
  ne_of_firstWord (by rw [firstWord_pattern, firstWord_files]; decide)

/-- No directory has the id of a set of files. -/
theorem directory_ne_files {url : String} {urls : List String} : directory url ≠ files urls :=
  ne_of_firstWord (by rw [firstWord_directory, firstWord_files]; decide)

/-- The id of a pattern tells the digest of its text. -/
theorem pattern_injective {text text' : String} (h : pattern text = pattern text') :
    Digest.shortHash text = Digest.shortHash text' := by simpa [pattern] using h

/-- The id of a directory tells its url. -/
theorem directory_injective {url url' : String} (h : directory url = directory url') :
    url = url' := by
  simpa [directory] using h

/-- The id of a set of files tells the digest of its urls as lines. -/
theorem files_injective {urls urls' : List String} (h : files urls = files urls') :
    Digest.shortHash ("\n".intercalate urls) = Digest.shortHash ("\n".intercalate urls') := by
  simpa [files] using h

/-- Lists of texts without line breaks are told apart by their texts as lines, the list without
texts aside. -/
theorem lines_injective {urls urls' : List String} (hne : urls ≠ []) (hne' : urls' ≠ [])
    (hurls : ∀ url ∈ urls, '\n' ∉ url.toList) (hurls' : ∀ url ∈ urls', '\n' ∉ url.toList)
    (h : "\n".intercalate urls = "\n".intercalate urls') : urls = urls' := by
  -- Splitting at the line breaks gives the texts back, which fails for no texts at all: they make
  -- one empty line.
  have hlines : ['\n'].intercalate (urls.map String.toList) =
      ['\n'].intercalate (urls'.map String.toList) := by
    simpa [← String.toList_inj, String.toList_intercalate] using h
  have hsplit (texts : List String) (hne : texts ≠ []) (htexts : ∀ text ∈ texts,
      '\n' ∉ text.toList) :
      (['\n'].intercalate (texts.map String.toList)).splitOn '\n' = texts.map String.toList :=
    List.splitOn_intercalate '\n' (by simpa using htexts) (by simpa using hne)
  have hinjective : Function.Injective String.toList := fun _ _ h => String.toList_inj.mp h
  refine List.map_injective_iff.mpr hinjective ?_
  rw [← hsplit urls hne hurls, hlines, hsplit urls' hne' hurls']

end RefId

/-- The records of a catalog have the words of its families. -/
theorem Catalog.Origin.isListed_refId {ws : Workspace} {providers : List Provider} {r : Record}
    (h : Origin ws providers r) : RefId.IsListed r.refId := by
  rcases h.cases_record with ⟨_, _, rfl⟩ | ⟨_, _, _, rfl⟩ | ⟨_, -, _, -, _, _, -, -, rfl⟩
    | ⟨_, -, _, rfl⟩
  · exact ⟨.standard, RefId.firstWord_standard⟩
  · exact ⟨.provider, RefId.firstWord_provider⟩
  · exact ⟨.named, RefId.firstWord_named⟩
  · exact ⟨.module, RefId.firstWord_module⟩

namespace Atom

open Catalog

variable {ws before : Workspace} {providers : List Provider} {policy : CollisionPolicy}
  {order : List CatalogFamily} {catalog : Snapshot} {allow : Bool} {a b a' b' : Atom}
  {p q : Predicate} {refId : String}

/-! ## Atoms that the catalog lists, or would list -/

/-- How an atom with the id of a standard scope, a module, a named scope or a provider's scope gets
its predicate: from the catalog or, where the catalog does not know the id, from the workspace. -/
inductive Listed (catalog : Snapshot) (ws : Workspace) (a : Atom) (refId : String) (p : Predicate) :
    Prop where
  | record {r : Record} (hget : catalog.get? refId = some r) (hp : r.predicate = p)
  | module {m : Module} {flavor : ModuleFlavor} (hget : catalog.get? refId = none)
    (hid : refId = RefId.module m.name flavor) (hm : m ∈ ws.modules)
    (hp : ws.moduleScope m flavor = p)
  | named {holder : Holder} {scope : NamedScope} {text : String} (hget : catalog.get? refId = none)
    (hkind : a.kind = .namedPattern) (hholderId : a.holderId? = some holder.id)
    (hname : a.scopeName? = some scope.name) (hid : refId = RefId.named holder.id scope.name)
    (hholder : holder ∈ ws.holders) (hmem : scope ∈ holder.scopes)
    (hscope : findScope ws (some holder.id) scope.name = .ok (some scope))
    (htext : scope.pattern? = some text)
    (hp : Workspace.patternScope text (some scope.displayName) = .ok p)

/-- An atom of which the catalog knows the id gets the predicate of the record. -/
theorem Resolves.listed (hadhoc : a.kind.isAdhoc = false)
    (hid : Text.present? a.refId? = some refId) (h : Resolves catalog ws allow a p)
    (hunlisted : catalog.get? refId = none → Listed catalog ws a refId p) :
    Listed catalog ws a refId p := by
  cases hget : catalog.get? refId with
  | none => exact hunlisted hget
  | some r =>
    have hresolve := h.resolve_eq_ok
    rw [resolve_of_reference (resolvesByReference_of_get? hadhoc hid hget)] at hresolve
    obtain ⟨refId', hid', r', hget', -, rfl⟩ := resolveReference_eq_ok.mp hresolve
    obtain rfl : refId' = refId := Option.some.inj (hid'.symm.trans hid)
    obtain rfl : r' = r := Option.some.inj (hget'.symm.trans hget)
    exact .record hget rfl

/-- The scope that is found for a normal form is one of the holder that the normal form names. -/
theorem exists_holder_of_findScope {holderId name : String} {scope : NamedScope}
    (hholder : Text.present? (some holderId) = some holderId ∨
      ∃ holder, ws.holdersOf name = [holder] ∧ holder.id = holderId)
    (hscope : findScope ws (some holderId) name = .ok (some scope)) :
    ∃ holder ∈ ws.holders, holder.id = holderId ∧ scope ∈ holder.scopes ∧ scope.name = name := by
  have hget {holder : Holder} (h : holder.get? name = some scope) :
      scope ∈ holder.scopes ∧ scope.name = name :=
    ⟨List.mem_of_find?_eq_some h, by simpa using List.find?_some h⟩
  unfold findScope at hscope
  by_cases hempty : holderId = ""
  · -- An empty holder id counts as none, and then the name decides alone.
    subst hempty
    obtain ⟨holder, honly, hid⟩ := hholder.resolve_left (by decide)
    have hnone : nonEmpty? (some "") = none := rfl
    simp only [hnone, honly, Except.ok.injEq] at hscope
    have hmem : holder ∈ ws.holdersOf name := by simp [honly]
    exact ⟨holder, (List.mem_filter.mp hmem).1, hid, hget hscope⟩
  · simp only [nonEmpty?_of_ne_empty hempty, Except.ok.injEq, Option.bind_eq_some_iff] at hscope
    obtain ⟨holder, hfind, hscope⟩ := hscope
    exact ⟨holder, List.mem_of_find?_eq_some hfind,
      by simpa using List.find?_some hfind, hget hscope⟩

/-- Two atoms of which the catalog lists, or would list, the one id have the same predicate. Only
named scopes that it does not list have to be the same, since their ids do not tell them apart. -/
theorem Listed.eq (ha : Listed catalog ws a refId p) (hb : Listed catalog ws b refId q)
    (hnamed : catalog.get? refId = none → a.kind = .namedPattern →
      a.holderId? = b.holderId? ∧ a.scopeName? = b.scopeName?) : p = q := by
  -- Both are found in the catalog or both are not; then the forms of the ids agree, and so do their
  -- parts.
  cases ha with
  | record hget hp =>
    cases hb with
    | record hget' hp' =>
      rw [hget] at hget'
      cases hget'
      exact hp.symm.trans hp'
    | module hget' => simp [hget] at hget'
    | named hget' => simp [hget] at hget'
  | module hget hid hm hp =>
    cases hb with
    | record hget' => simp [hget] at hget'
    | @module m' flavor' _ hid' hm' hp' =>
      obtain ⟨hname, rfl⟩ := RefId.module_injective (hid.symm.trans hid')
      rw [← hp, ← hp', List.inj_on_of_nodup_map ws.names_nodup hm hm' hname]
    | named _ _ _ _ hid' => exact absurd (hid.symm.trans hid') RefId.module_ne_named
  | named hget hkind hholderId hname hid _ _ hscope htext hp =>
    cases hb with
    | record hget' => simp [hget] at hget'
    | module _ hid' => exact absurd (hid'.symm.trans hid) RefId.module_ne_named
    | named _ _ hholderId' hname' _ _ _ hscope' htext' hp' =>
      obtain ⟨hholder, hscopeName⟩ := hnamed hget hkind
      rw [hholderId, hholderId', Option.some.injEq] at hholder
      rw [hname, hname', Option.some.injEq] at hscopeName
      rw [← hholder, ← hscopeName, hscope] at hscope'
      cases hscope'
      rw [htext] at htext'
      cases htext'
      rw [hp] at hp'
      exact Except.ok.inj hp'

/-- What resolves in a workspace is listed by the catalog of the workspace. -/
theorem Listed.isSome_get? (hbuild : Snapshot.build ws providers policy order = .ok catalog)
    (h : Listed catalog ws a refId p) : (catalog.get? refId).isSome := by
  cases h with
  | record hget => simp [hget]
  | module _ hid hm => exact hid ▸ isSome_get?_of_origin hbuild (.module hm _)
  | named _ _ _ _ hid hholder hmem _ htext hp =>
    exact hid ▸ isSome_get?_of_origin hbuild (.named hholder hmem htext hp)

/-! ## What normal forms denote -/

/-- What a normal form with a reference id stands for, by the form of the id. -/
inductive Denotes (catalog : Snapshot) (ws : Workspace) (a : Atom) (refId : String)
    (p : Predicate) : Prop where
  | listed (hadhoc : a.kind.isAdhoc = false) (hword : RefId.IsListed refId)
    (hlisted : Listed catalog ws a refId p)
  | pattern {text : String} {tree : Pattern} (hkind : a.kind = .adhocPattern)
    (htext : a.pattern? = some text) (hid : refId = RefId.pattern text)
    (htree : Pattern.parse text = .ok tree) (hp : ∀ f, p.contains f = tree.selects f)
  | directory {url : String} (hkind : a.kind = .directory) (hurl : a.directoryUrl? = some url)
    (hid : refId = RefId.directory url)
    (hp : ∀ f, p.contains f = Workspace.liesIn (Workspace.directoryHead url) a.recursive f)
  | files (hkind : a.kind = .fileSet) (hid : refId = RefId.files a.fileUrls) (hne : a.fileUrls ≠ [])
    (hsorted : a.fileUrls.Pairwise (· < ·)) (hfound : ∀ url ∈ a.fileUrls, (ws.findFile? url).isSome)
    (hp : ∀ f, p.contains f = a.fileUrls.contains f.url)

/-- The scope of a directory contains what lies in it, going down or not. -/
theorem contains_of_directoryScope {url : String} {recursive : Bool}
    (h : ws.directoryScope url recursive = .ok p) (f : File) :
    p.contains f = Workspace.liesIn (Workspace.directoryHead url) recursive f := by
  unfold Workspace.directoryScope at h
  split at h
  · cases h
  · split at h
    · cases h
    · cases h
      rfl

/-- An atom of its own kind is described by its payload, whatever its id is. -/
theorem Resolves.resolvePayload_eq_ok (hadhoc : a.kind.isAdhoc = true)
    (h : Resolves catalog ws allow a p) : a.resolvePayload catalog ws allow = .ok p := by
  rw [← resolve_of_payload (resolvesByReference_of_isAdhoc hadhoc)]
  exact h.resolve_eq_ok

/-- The normal form of a pattern stands for what its canonical text selects. -/
theorem Resolves.denotes_pattern {text canonical : String} (hkind : a.kind = .adhocPattern)
    (htext : a.pattern? = some canonical) (hcanonical : Pattern.canonical text = .ok canonical)
    (h : Resolves catalog ws allow a p) : Denotes catalog ws a (RefId.pattern canonical) p := by
  obtain ⟨tree, htree, rfl⟩ := Pattern.canonical_eq_ok.mp hcanonical
  -- The canonical text is read as the tree it was written from, and it is not empty, so it is the
  -- payload that counts.
  have hback : Pattern.parse tree.render = .ok tree :=
    (Pattern.canonical_of_parse htree).parse_render
  have hne : tree.render ≠ "" := by
    intro hempty
    rw [hempty] at hback
    contradiction
  have hresolve := h.resolvePayload_eq_ok (by rw [hkind]; rfl)
  rw [resolvePayload, hkind] at hresolve
  simp only [htext, nonEmpty?_of_ne_empty hne] at hresolve
  obtain ⟨tree', htree', rfl⟩ := patternScope_none_eq_ok.mp (patternPredicate_eq_ok.mp hresolve)
  obtain rfl : tree' = tree := Except.ok.inj (htree'.symm.trans hback)
  exact .pattern hkind htext rfl hback fun f => rfl

/-- The normal form of a directory stands for what lies in its url. -/
theorem Resolves.denotes_directory {url : String} (hkind : a.kind = .directory)
    (hurl : a.directoryUrl? = some url) (hne : url ≠ "") (h : Resolves catalog ws allow a p) :
    Denotes catalog ws a (RefId.directory url) p := by
  have hresolve := h.resolvePayload_eq_ok (by rw [hkind]; rfl)
  rw [resolvePayload, hkind] at hresolve
  simp only [hurl, nonEmpty?_of_ne_empty hne] at hresolve
  exact .directory hkind hurl rfl (contains_of_directoryScope (mapError_eq_ok.mp hresolve))

/-- The normal form of a set of files stands for the files of its urls. -/
theorem Resolves.denotes_files (hkind : a.kind = .fileSet) (hne : a.fileUrls ≠ [])
    (hsorted : a.fileUrls.Pairwise (· < ·)) (h : Resolves catalog ws allow a p) :
    Denotes catalog ws a (RefId.files a.fileUrls) p := by
  have hresolve := h.resolvePayload_eq_ok (by rw [hkind]; rfl)
  rw [resolvePayload, hkind] at hresolve
  simp only [List.isEmpty_iff, hne, if_false] at hresolve
  obtain ⟨hfound, rfl⟩ := filesScope_eq_ok.mp (mapError_eq_ok.mp hresolve)
  exact .files hkind rfl hne hsorted hfound fun f => rfl

/-- An atom with a payload and an id that the catalog does not know is described by its payload. -/
theorem resolve_of_unlisted (hreference : a.kind.isReference = false)
    (hpayload : a.hasPayload = true) (hid : Text.present? a.refId? = some refId)
    (hget : catalog.get? refId = none) :
    a.resolve catalog ws allow = a.resolvePayload catalog ws allow := by
  refine resolve_of_payload (resolvesByReference_of_payload hreference hpayload
    fun refId' hid' => ?_)
  obtain rfl : refId' = refId := Option.some.inj (hid'.symm.trans hid)
  exact hget

/-- A standard scope is in the catalog or nowhere. -/
theorem Resolves.denotes_standard {scopeId : String} (hkind : a.kind = .standard)
    (hstandard : a.standardId? = some scopeId) (hid : a.refId? = some (RefId.standard scopeId))
    (hpresent : Text.present? (some scopeId) = some scopeId)
    (h : Resolves catalog ws allow a p) : Denotes catalog ws a (RefId.standard scopeId) p := by
  have hadhoc : a.kind.isAdhoc = false := by rw [hkind]; rfl
  have hrefId : Text.present? a.refId? = some (RefId.standard scopeId) :=
    hid ▸ RefId.present?_standard hpresent
  refine .listed hadhoc ⟨.standard, RefId.firstWord_standard⟩
    (h.listed hadhoc hrefId fun hget => ?_)
  -- Resolution looks a standard scope up as well, under the id that the catalog does not know.
  have hresolve := h.resolve_eq_ok
  rw [resolve_of_unlisted (by rw [hkind]; rfl) (by simp [hasPayload, hkind, hstandard, hpresent])
    hrefId hget, resolvePayload, hkind] at hresolve
  obtain ⟨scopeId', hscopeId, r, hget', -, -⟩ := resolveStandard_eq_ok.mp hresolve
  rw [hstandard, nonEmpty?_of_ne_empty (Text.ne_empty_of_present? hpresent),
    Option.some.injEq] at hscopeId
  rw [← hscopeId, hget] at hget'
  cases hget'

/-- The normal form of a module's scope that the catalog does not know is read in the workspace. -/
theorem Resolves.denotes_module {name : String} {flavor : ModuleFlavor} (hkind : a.kind = .module)
    (hname : a.moduleName? = some name) (hflavor : a.flavor? = some flavor)
    (hid : a.refId? = some (RefId.module name flavor))
    (hpresent : Text.present? (some name) = some name) (h : Resolves catalog ws allow a p) :
    Denotes catalog ws a (RefId.module name flavor) p := by
  have hadhoc : a.kind.isAdhoc = false := by rw [hkind]; rfl
  have hrefId : Text.present? a.refId? = some (RefId.module name flavor) :=
    hid ▸ RefId.present?_module
  refine .listed hadhoc ⟨.module, RefId.firstWord_module⟩ (h.listed hadhoc hrefId fun hget => ?_)
  have hresolve := h.resolve_eq_ok
  rw [resolve_of_unlisted (by rw [hkind]; rfl)
    (by simp [hasPayload, hkind, hname, hflavor, hpresent]) hrefId hget, resolvePayload,
    hkind] at hresolve
  obtain ⟨name', hname', flavor', hflavor', m, hm, hp⟩ := resolveModule_eq_ok.mp hresolve
  rw [hname, nonEmpty?_of_ne_empty (Text.ne_empty_of_present? hpresent),
    Option.some.injEq] at hname'
  rw [hflavor, Option.some.injEq] at hflavor'
  subst hname' hflavor'
  obtain rfl : m.name = name := by simpa using List.find?_some hm
  exact .module hget rfl (List.mem_of_find?_eq_some hm) hp

/-- The normal form of a named scope that the catalog does not know is read in the workspace. -/
theorem Resolves.denotes_named {name holderId : String} (hkind : a.kind = .namedPattern)
    (hname : Text.present? (some name) = some name)
    (hholder : Text.present? (some holderId) = some holderId ∨
      ∃ holder, ws.holdersOf name = [holder] ∧ holder.id = holderId)
    (h : Resolves catalog ws allow (a.withScope holderId name) p) :
    Denotes catalog ws (a.withScope holderId name) (RefId.named holderId name) p := by
  have hkind' : (a.withScope holderId name).kind = .namedPattern := hkind
  have hadhoc : (a.withScope holderId name).kind.isAdhoc = false := by rw [hkind']; rfl
  have hpresent : Text.present? (a.withScope holderId name).refId? =
      some (RefId.named holderId name) :=
    RefId.present?_named hname
  refine .listed hadhoc ⟨.named, RefId.firstWord_named⟩ (h.listed hadhoc hpresent fun hget => ?_)
  have hpayload : (a.withScope holderId name).hasPayload = true := by
    rw [hasPayload, hkind']
    simp [withScope, hname]
  have hresolve := h.resolve_eq_ok
  rw [resolve_of_unlisted (by rw [hkind']; rfl) hpayload hpresent hget, resolvePayload,
    hkind'] at hresolve
  obtain ⟨name', hname', scope, hscope, text, htext, hp⟩ := resolveNamed_eq_ok.mp hresolve
  rw [show (a.withScope holderId name).scopeName? = some name from rfl,
    nonEmpty?_of_ne_empty (Text.ne_empty_of_present? hname), Option.some.injEq] at hname'
  subst hname'
  obtain ⟨holder, hmem, rfl, hmemScope, rfl⟩ := exists_holder_of_findScope hholder hscope
  exact .named hget hkind' rfl rfl rfl hmem hmemScope hscope htext hp

/-- A normal form that resolves denotes something by its reference id. -/
theorem Resolves.denotes (hbuild : Snapshot.build before providers policy order = .ok catalog)
    (hnormal : Normalizes catalog ws allow a a') (h : Resolves catalog ws allow a' p) :
    ∃ refId, a'.refId? = some refId ∧ Denotes catalog ws a' refId p := by
  -- The id of a normal form says which rule gave it.
  cases hnormal with
  | @reference refId r hby hid hget hallowed =>
    obtain ⟨horigin, rfl⟩ := origin_of_get? hbuild hget
    have hpresent : Text.present? (some r.refId) = some r.refId := Text.present?_of_present? hid
    refine ⟨r.refId, rfl, .listed horigin.isAdhoc_kind horigin.isListed_refId ?_⟩
    exact h.listed horigin.isAdhoc_kind hpresent fun hnone => by simp [hget] at hnone
  | standard hby hkind hid =>
    exact ⟨_, rfl, h.denotes_standard hkind rfl rfl (Text.present?_of_present? hid)⟩
  | module hby hkind hname hflavor =>
    exact ⟨_, rfl, h.denotes_module hkind rfl hflavor rfl (Text.present?_of_present? hname)⟩
  | named hby hkind hname hholder =>
    exact ⟨_, rfl, h.denotes_named hkind (Text.present?_of_present? hname)
      (.inl (Text.present?_of_present? hholder))⟩
  | @onlyHolder name holder hby hkind hname hholder honly =>
    exact ⟨_, rfl, h.denotes_named hkind (Text.present?_of_present? hname)
      (.inr ⟨holder, honly, rfl⟩)⟩
  | pattern hkind htext hcanonical => exact ⟨_, rfl, h.denotes_pattern hkind rfl hcanonical⟩
  | directory hkind hurl =>
    exact ⟨_, rfl, h.denotes_directory hkind rfl (Text.ne_empty_of_present? hurl)⟩
  | files hkind hurls =>
    exact ⟨_, rfl, h.denotes_files hkind hurls (sorted_canonicalUrls a.fileUrls)⟩

/-! ## What an id says about the atom -/

/-- An id with the word of a family is that of an atom which the catalog lists, or would list. -/
theorem Denotes.of_isListed (h : Denotes catalog ws a refId p) (hword : RefId.IsListed refId) :
    a.kind.isAdhoc = false ∧ Listed catalog ws a refId p := by
  cases h with
  | listed hadhoc _ hlisted => exact ⟨hadhoc, hlisted⟩
  | pattern _ _ hid => exact absurd (hid ▸ hword) (RefId.not_isListed_pattern _)
  | directory _ _ hid => exact absurd (hid ▸ hword) (RefId.not_isListed_directory _)
  | files _ hid => exact absurd (hid ▸ hword) (RefId.not_isListed_files _)

/-- The id of a pattern tells the digest of the pattern's text. -/
theorem Denotes.of_pattern {text : String} (h : Denotes catalog ws a (RefId.pattern text) p) :
    a.kind = .adhocPattern ∧ ∃ text' tree, a.pattern? = some text' ∧
      Digest.shortHash text = Digest.shortHash text' ∧ Pattern.parse text' = .ok tree ∧
        ∀ f, p.contains f = tree.selects f := by
  cases h with
  | listed _ hword => exact absurd hword (RefId.not_isListed_pattern _)
  | pattern hkind htext hid htree hp =>
    exact ⟨hkind, _, _, htext, RefId.pattern_injective hid, htree, hp⟩
  | directory _ _ hid => exact absurd hid RefId.pattern_ne_directory
  | files _ hid => exact absurd hid RefId.pattern_ne_files

/-- The id of a directory tells its url. -/
theorem Denotes.of_directory {url : String} (h : Denotes catalog ws a (RefId.directory url) p) :
    a.kind = .directory ∧ a.directoryUrl? = some url ∧
      ∀ f, p.contains f = Workspace.liesIn (Workspace.directoryHead url) a.recursive f := by
  cases h with
  | listed _ hword => exact absurd hword (RefId.not_isListed_directory _)
  | pattern _ _ hid => exact absurd hid.symm RefId.pattern_ne_directory
  | directory hkind hurl hid hp =>
    obtain rfl := RefId.directory_injective hid
    exact ⟨hkind, hurl, hp⟩
  | files _ hid => exact absurd hid RefId.directory_ne_files

/-- The id of a set of files tells the digest of its urls as lines. -/
theorem Denotes.of_files {urls : List String} (h : Denotes catalog ws a (RefId.files urls) p) :
    a.kind = .fileSet ∧ Digest.shortHash ("\n".intercalate urls) =
      Digest.shortHash ("\n".intercalate a.fileUrls) ∧ a.fileUrls ≠ [] ∧
        a.fileUrls.Pairwise (· < ·) ∧ (∀ url ∈ a.fileUrls, (ws.findFile? url).isSome) ∧
          ∀ f, p.contains f = a.fileUrls.contains f.url := by
  cases h with
  | listed _ hword => exact absurd hword (RefId.not_isListed_files _)
  | pattern _ _ hid => exact absurd hid.symm RefId.pattern_ne_files
  | directory _ _ hid => exact absurd hid.symm RefId.directory_ne_files
  | files hkind hid hne hsorted hfound hp =>
    exact ⟨hkind, RefId.files_injective hid, hne, hsorted, hfound, hp⟩

/-! ## Two normal forms with one id -/

/-- The text that is hashed for the reference id of a normal form, if there is one. -/
def hashedText? (a : Atom) : Option String :=
  match a.kind with
  | .adhocPattern => a.pattern?
  | .fileSet => some ("\n".intercalate a.fileUrls)
  | _ => none

/-- Two normal forms with one reference id agree in what the id leaves open. -/
structure SameExtent (ws : Workspace) (a b : Atom) : Prop where
  /-- Both directories go down equally far, or no file lies further down. -/
  directory : a.kind = .directory → a.recursive = b.recursive ∨ ∀ f ∈ ws.files,
    ∀ url ∈ a.directoryUrl?, Workspace.liesIn (Workspace.directoryHead url) true f = true →
      Workspace.liesIn (Workspace.directoryHead url) false f = true
  /-- Both sets have the same urls. -/
  files : a.kind = .fileSet → a.fileUrls = b.fileUrls

/-- Nothing is left open by other ids than those of directories and of sets of files. -/
theorem sameExtent_of_ne (hdirectory : a.kind ≠ .directory) (hfiles : a.kind ≠ .fileSet) :
    SameExtent ws a b :=
  ⟨fun h => absurd h hdirectory, fun h => absurd h hfiles⟩

/-- A file in a directory is in the directory with all that lies further down. -/
theorem liesIn_true_of_false {head : String} {f : File} (h : Workspace.liesIn head false f = true) :
    Workspace.liesIn head true f = true := by
  simp only [Workspace.liesIn, Bool.false_or, Bool.true_or, Bool.and_true, Bool.and_eq_true] at h ⊢
  exact h.1

/-- Directories with one url hold the same files when both or none of them go further down, or
nothing is there. -/
theorem forall_liesIn_eq_iff {head : String} {deep deep' : Bool} :
    (∀ f ∈ ws.files, Workspace.liesIn head deep f = Workspace.liesIn head deep' f) ↔
      deep = deep' ∨ ∀ f ∈ ws.files, Workspace.liesIn head true f = true →
        Workspace.liesIn head false f = true := by
  have hdiffer : (∀ f ∈ ws.files, Workspace.liesIn head true f = Workspace.liesIn head false f) ↔
      ∀ f ∈ ws.files, Workspace.liesIn head true f = true → Workspace.liesIn head false f = true :=
    forall₂_congr fun f _ => ⟨fun h htrue => h ▸ htrue,
      fun h => Bool.eq_iff_iff.mpr ⟨h, liesIn_true_of_false⟩⟩
  cases deep <;> cases deep' <;> simp only [true_or, false_or, reduceCtorEq, implies_true, hdiffer]
  rw [← hdiffer]
  exact forall₂_congr fun f _ => eq_comm

/-- Sets of files of a workspace hold the same ones exactly when their urls are the same. -/
theorem forall_contains_eq_iff {urls urls' : List String} (hsorted : urls.Pairwise (· < ·))
    (hsorted' : urls'.Pairwise (· < ·)) (hfound : ∀ url ∈ urls, (ws.findFile? url).isSome)
    (hfound' : ∀ url ∈ urls', (ws.findFile? url).isSome) :
    (∀ f ∈ ws.files, urls.contains f.url = urls'.contains f.url) ↔ urls = urls' := by
  constructor
  · intro h
    have hmem (url : String) (hfound : (ws.findFile? url).isSome) : url ∈ urls ↔ url ∈ urls' := by
      obtain ⟨f, hf⟩ := Option.isSome_iff_exists.mp hfound
      obtain ⟨hmem, rfl⟩ := Workspace.mem_of_findFile? hf
      rw [← List.contains_iff_mem, ← List.contains_iff_mem, h f hmem]
    -- Two ascending lists with the same members are the same.
    refine hsorted.eq_of_mem_iff hsorted' fun url => ⟨fun hurl => ?_, fun hurl => ?_⟩
    · exact (hmem url (hfound url hurl)).mp hurl
    · exact (hmem url (hfound' url hurl)).mpr hurl
  · rintro rfl f -
    rfl

/-- Normal forms with one id stand for the same files exactly when they agree in what the id leaves
open. -/
theorem Denotes.same_files_iff (ha : Denotes catalog ws a refId p)
    (hb : Denotes catalog ws b refId q)
    (hnamed : catalog.get? refId = none → a.kind = .namedPattern → a.holderId? = b.holderId? ∧
      a.scopeName? = b.scopeName?)
    (hhash : ∀ s ∈ a.hashedText?, ∀ t ∈ b.hashedText?, Digest.shortHash s = Digest.shortHash t →
      s = t) : (∀ f ∈ ws.files, p.contains f = q.contains f) ↔ SameExtent ws a b := by
  -- The id has one form, so both normal forms denote something of the same sort.
  cases ha with
  | listed hadhoc hword hlisted =>
    obtain rfl : p = q := hlisted.eq (hb.of_isListed hword).2 hnamed
    have hkind (kind : AtomKind) (h : kind.isAdhoc = true) : a.kind ≠ kind := by
      rintro rfl
      rw [h] at hadhoc
      cases hadhoc
    exact iff_of_true (fun f _ => rfl) (sameExtent_of_ne (hkind _ rfl) (hkind _ rfl))
  | pattern hkind htext hid htree hp =>
    subst hid
    obtain ⟨hkind', text', tree', htext', hdigest, htree', hp'⟩ := hb.of_pattern
    have hsame := hhash _ (by simp [hashedText?, hkind, htext]) _
      (by simp [hashedText?, hkind', htext']) hdigest
    rw [← hsame, htree] at htree'
    cases htree'
    exact iff_of_true (fun f _ => (hp f).trans (hp' f).symm)
      (sameExtent_of_ne (by simp [hkind]) (by simp [hkind]))
  | directory hkind hurl hid hp =>
    subst hid
    obtain ⟨-, -, hp'⟩ := hb.of_directory
    simp only [hp, hp', forall_liesIn_eq_iff]
    constructor
    · intro h
      refine ⟨fun _ => h.imp_right fun hdeep f hf url hmem => ?_,
        fun hfiles => by simp [hkind] at hfiles⟩
      obtain rfl := Option.some.inj (hurl.symm.trans hmem)
      exact hdeep f hf
    · exact fun h => (h.directory hkind).imp_right fun hdeep f hf => hdeep f hf _ hurl
  | files hkind hid hne hsorted hfound hp =>
    subst hid
    obtain ⟨-, -, -, hsorted', hfound', hp'⟩ := hb.of_files
    simp only [hp, hp', forall_contains_eq_iff hsorted hsorted' hfound hfound']
    exact ⟨fun h => ⟨fun hdirectory => by simp [hkind] at hdirectory, fun _ => h⟩,
      fun h => h.files hkind⟩

/-- Sets of files without line breaks in their urls are told apart by their ids. -/
theorem Denotes.fileUrls_eq (ha : Denotes catalog ws a refId p)
    (hb : Denotes catalog ws b refId q)
    (hhash : ∀ s ∈ a.hashedText?, ∀ t ∈ b.hashedText?, Digest.shortHash s = Digest.shortHash t →
      s = t) (hkind : a.kind = .fileSet)
    (hlines : ∀ url ∈ a.fileUrls ++ b.fileUrls, '\n' ∉ url.toList) : a.fileUrls = b.fileUrls := by
  obtain ⟨hurls, hurls'⟩ := List.forall_mem_append.mp hlines
  cases ha with
  | listed hadhoc =>
    rw [hkind] at hadhoc
    cases hadhoc
  | pattern hpattern => simp [hkind] at hpattern
  | directory hdirectory => simp [hkind] at hdirectory
  | files _ hid hne =>
    subst hid
    obtain ⟨hkind', hdigest, hne', -⟩ := hb.of_files
    have hsame := hhash _ (by simp [hashedText?, hkind]) _ (by simp [hashedText?, hkind']) hdigest
    exact RefId.lines_injective hne hne' hurls hurls' hsame

/-- Two atoms of any kinds that have normal forms with one reference id, both of which resolve,
stand for the same files of the workspace exactly when they agree in what the id leaves open; so
they do when, as directories, both or none go further down and, as sets of files, no url holds a
line break. It is assumed that the texts that are hashed for the two ids do not collide. The catalog
may be that of an earlier workspace: its ids do not tell named scopes apart which only the present
one has, so these have to be the same. -/
theorem refId_determines_files (ws before : Workspace) (providers : List Provider)
    (policy : CollisionPolicy) (order : List CatalogFamily) (catalog : Snapshot)
    (hbuild : Snapshot.build before providers policy order = .ok catalog) (allow : Bool)
    (a b a' b' : Atom) (notes notes' : Diagnostics) (p q : Predicate)
    (ha : a.normalizeUnder .strict catalog ws allow = .ok (a', notes))
    (hb : b.normalizeUnder .strict catalog ws allow = .ok (b', notes'))
    (hp : a'.resolve catalog ws allow = .ok p) (hq : b'.resolve catalog ws allow = .ok q)
    (hid : a'.refId? = b'.refId?)
    (hhash : ∀ s ∈ a'.hashedText?, ∀ t ∈ b'.hashedText?, Digest.shortHash s = Digest.shortHash t →
      s = t)
    (hnamed : before = ws ∨ (a'.kind = .namedPattern → a'.holderId? = b'.holderId? ∧
      a'.scopeName? = b'.scopeName?)) :
    ((∀ f ∈ ws.files, p.contains f = q.contains f) ↔ SameExtent ws a' b') ∧
      ((a'.kind = .directory → a'.recursive = b'.recursive) →
        (a'.kind = .fileSet → ∀ url ∈ a'.fileUrls ++ b'.fileUrls, '\n' ∉ url.toList) →
        ∀ f ∈ ws.files, p.contains f = q.contains f) := by
  obtain ⟨refId, hrefId, hdenotes⟩ :=
    (resolve_eq_ok.mp hp).denotes hbuild (normalizeUnder_strict_eq_ok.mp ha).1
  obtain ⟨refId', hrefId', hdenotes'⟩ :=
    (resolve_eq_ok.mp hq).denotes hbuild (normalizeUnder_strict_eq_ok.mp hb).1
  obtain rfl : refId = refId' := Option.some.inj (hrefId.symm.trans (hid.trans hrefId'))
  have hsame : (∀ f ∈ ws.files, p.contains f = q.contains f) ↔ SameExtent ws a' b' := by
    refine hdenotes.same_files_iff hdenotes' (fun hget hkind => ?_) hhash
    -- The catalog of the present workspace lists every scope that resolves, so only an earlier one
    -- leaves any out.
    rcases hnamed with rfl | hnamed
    · cases hdenotes with
      | listed _ _ hlisted => simpa [hget] using hlisted.isSome_get? hbuild
      | pattern h | directory h | files h => simp [hkind] at h
    · exact hnamed hkind
  exact ⟨hsame, fun hdeep hlines => hsame.mpr
    ⟨fun hkind => .inl (hdeep hkind),
      fun hkind => hdenotes.fileUrls_eq hdenotes' hhash hkind (hlines hkind)⟩⟩

/-! ## Directories of two depths, and urls of two lines -/

/-- A manifest with a file further down in a directory, and one of which the path holds a line
break. -/
def nestedManifest : Json := .object [("root", .string "r"), ("files", .array [
  .string "d/a", .string "d/s/b", .string "x", .string "y", .string "x\nr/y"])]

/-- The workspace that it describes. -/
def nestedWorkspace : Workspace where
  files := [{ url := "r/d/a", path := "d/a" }, { url := "r/d/s/b", path := "d/s/b" },
    { url := "r/x", path := "x" }, { url := "r/y", path := "y" },
    { url := "r/x\nr/y", path := "x\nr/y" }]
  modules := []
  urls_nodup := by decide
  names_nodup := List.nodup_nil

/-- There is a catalog of that workspace. -/
theorem exists_nestedCatalog :
    ∃ catalog, Snapshot.build nestedWorkspace [] .firstWins ({} : Settings).familyOrder =
      .ok catalog :=
  exists_build_iff.mpr (by simp)

/-- An atom for a directory, with or without what lies further down. -/
def directoryAtom (url : String) (recursive : Bool) : Atom where
  id := "a"
  kind := .directory
  directoryUrl? := some url
  recursive := recursive

/-- Its normal form. -/
def normalDirectory (url : String) (recursive : Bool) : Atom :=
  { directoryAtom url recursive with refId? := some (RefId.directory url) }

/-- An atom for a set of files. -/
def filesAtom (urls : List String) : Atom where
  id := "a"
  kind := .fileSet
  fileUrls := urls

/-- Its normal form when the urls are in order. -/
def normalFiles (urls : List String) : Atom :=
  { filesAtom urls with refId? := some (RefId.files urls) }

/-- Below the inner directory nothing lies further down, so the id says all. -/
theorem same_files_of_inner_directory : ∃ catalog p q,
    Snapshot.build nestedWorkspace [] .firstWins ({} : Settings).familyOrder = .ok catalog ∧
      (normalDirectory "r/d/s" true).resolve catalog nestedWorkspace false = .ok p ∧
      (normalDirectory "r/d/s" false).resolve catalog nestedWorkspace false = .ok q ∧
      ∀ f ∈ nestedWorkspace.files, p.contains f = q.contains f := by
  obtain ⟨catalog, hbuild⟩ := exists_nestedCatalog
  let a := normalDirectory "r/d/s" true
  let b := normalDirectory "r/d/s" false
  have ha : (directoryAtom "r/d/s" true).normalizeUnder .strict catalog nestedWorkspace false =
      .ok (a, []) := rfl
  have hb : (directoryAtom "r/d/s" false).normalizeUnder .strict catalog nestedWorkspace false =
      .ok (b, []) := rfl
  obtain ⟨p, hp⟩ : ∃ p, a.resolve catalog nestedWorkspace false = .ok p := ⟨_, rfl⟩
  obtain ⟨q, hq⟩ : ∃ q, b.resolve catalog nestedWorkspace false = .ok q := ⟨_, rfl⟩
  have hhash : ∀ s ∈ a.hashedText?, ∀ t ∈ b.hashedText?, Digest.shortHash s = Digest.shortHash t →
      s = t := nofun
  have hextent : SameExtent nestedWorkspace a b := ⟨fun _ => .inr (by decide), nofun⟩
  have hsame := refId_determines_files nestedWorkspace nestedWorkspace [] .firstWins
    ({} : Settings).familyOrder catalog hbuild false _ _ a b [] [] p q ha hb hp hq rfl
    hhash (.inl rfl)
  exact ⟨catalog, p, q, hbuild, hp, hq, hsame.1.mpr hextent⟩

/-- Whether two atoms have normal forms with one reference id, for which one text is hashed or none,
and yet stand for different files of the workspace. -/
def Conflated (ws : Workspace) (a b : Atom) : Prop :=
  ∃ catalog a' b' p q, Snapshot.build ws [] .firstWins ({} : Settings).familyOrder = .ok catalog ∧
    a.normalizeUnder .strict catalog ws false = .ok (a', []) ∧
    b.normalizeUnder .strict catalog ws false = .ok (b', []) ∧
    a'.resolve catalog ws false = .ok p ∧ b'.resolve catalog ws false = .ok q ∧
    a'.refId? = b'.refId? ∧ a'.hashedText? = b'.hashedText? ∧ ∃ f ∈ ws.files,
      p.contains f ≠ q.contains f

/-- The outer directory has one reference id with and without what lies further down, and two files
have that of the single file whose url is the text of both as lines. -/
theorem refId_conflates :
    Workspace.ofManifest nestedManifest = .ok nestedWorkspace ∧
      Conflated nestedWorkspace (directoryAtom "r/d" true) (directoryAtom "r/d" false) ∧
      Conflated nestedWorkspace (filesAtom ["r/x", "r/y"]) (filesAtom ["r/x\nr/y"]) := by
  obtain ⟨catalog, hbuild⟩ := exists_nestedCatalog
  have hlines : "\n".intercalate ["r/x", "r/y"] = "\n".intercalate ["r/x\nr/y"] := by decide
  have hrefId : RefId.files ["r/x", "r/y"] = RefId.files ["r/x\nr/y"] := by
    rw [RefId.files, hlines, RefId.files]
  refine ⟨rfl, ⟨catalog, normalDirectory "r/d" true, normalDirectory "r/d" false, _, _, hbuild, rfl,
    rfl, rfl, rfl, rfl, rfl, { url := "r/d/s/b", path := "d/s/b" }, by decide, by decide⟩, ?_⟩
  exact ⟨catalog, normalFiles ["r/x", "r/y"], normalFiles ["r/x\nr/y"], _, _, hbuild, rfl,
    rfl, rfl, rfl, congrArg some hrefId, congrArg some hlines, { url := "r/x", path := "x" },
    by decide, by decide⟩

end Atom

end ScopeAlgebra
