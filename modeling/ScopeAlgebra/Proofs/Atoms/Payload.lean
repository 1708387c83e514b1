import ScopeAlgebra.Proofs.Atoms.Lenient
import ScopeAlgebra.Proofs.Catalog.Items

/-!
# Payloads of normal forms

A normal form carries a payload that its reference id can be made from again (`Normalizes.matched`),
whether it was made from a payload or looked up: what the record does not say is left over from the
atom, and never decides the id. Where there is no normal form because something does not resolve
(`Unresolves`), the lenient policy passes the atom on as it is, but for a pattern that cannot be
read. `normalForm_matches` compares both policies.
-/

namespace ScopeAlgebra

/-- The reference id that the payload of an atom stands for. Kinds that are always looked up have
none. -/
def Atom.derivedId? (a : Atom) : Option String :=
  match a.kind with
  | .standard => a.standardId?.map RefId.standard
  | .module => a.moduleName?.bind fun name => a.flavor?.map (RefId.module name)
  | .namedPattern => a.holderId?.bind fun holderId => a.scopeName?.map (RefId.named holderId)
  | .adhocPattern => a.pattern?.map RefId.pattern
  | .directory => a.directoryUrl?.map RefId.directory
  | .fileSet => some (RefId.files a.fileUrls)
  | .catalogRef | .provider => none

/-- An atom whose payload is that of its reference id: the id is made from the payload, or a
provider's scope is known under it. -/
structure Atom.Matched (catalog : Snapshot) (a : Atom) : Prop where
  kind_ne_catalogRef : a.kind ≠ .catalogRef
  derived : a.kind ≠ .provider → ∃ refId, a.refId? = some refId ∧ a.derivedId? = some refId
  provided : a.kind = .provider → ∃ refId r providerId,
    a.refId? = some refId ∧ catalog.get? refId = some r ∧ r.item.kind = .provider ∧
      r.item.providerId? = some providerId ∧ a.providerId? = some providerId
  files : a.kind = .fileSet → a.fileUrls ≠ [] ∧ a.fileUrls.Pairwise (· < ·)

namespace Atom

open Catalog

variable {ws : Workspace} {providers : List Provider} {policy : CollisionPolicy}
  {order : List CatalogFamily} {catalog : Snapshot} {allow : Bool} {a a' : Atom} {item : Item}
  {implementation refId : String} {cause : Unresolved}

/-! ## Normal forms -/

/-- A name that an item carries is preferred to what the atom has, since it is not empty. -/
theorem preferText_of_mem_names (hnames : some "" ∉ item.names) {name? : Option String}
    {name : String} (hmem : name? ∈ item.names) (hname : name? = some name) (own? : Option String) :
    preferText name? own? = some name := by
  subst hname
  refine preferText_of_ne_empty (fun hempty => ?_) own?
  exact hnames (hempty ▸ hmem)

/-- An atom that is looked up takes over all metadata that the id of the item follows from. -/
theorem derivedId?_enrich (hnames : some "" ∉ item.names) (hkind : item.kind ≠ .provider)
    (hid : item.derivedId? implementation = some refId) :
    (a.enrich item).derivedId? = some refId := by
  have hown : (a.enrich item).kind = item.kind := rfl
  unfold Item.derivedId? at hid
  -- Each kind has parts of its own; what the item says of them is what the atom takes over.
  cases hk : item.kind <;> rw [hk] at hid hown hkind
  case standard =>
    obtain ⟨scopeId, hscopeId, rfl⟩ := Option.map_eq_some_iff.mp hid
    have hstandard : (a.enrich item).standardId? = some scopeId :=
      preferText_of_mem_names hnames (by simp [Item.names]) hscopeId _
    simp [derivedId?, hown, hstandard]
  case module =>
    obtain ⟨name, hname, hid⟩ := Option.bind_eq_some_iff.mp hid
    obtain ⟨flavor, hflavor, rfl⟩ := Option.map_eq_some_iff.mp hid
    have hmodule : (a.enrich item).moduleName? = some name :=
      preferText_of_mem_names hnames (by simp [Item.names]) hname _
    have hflavor : (a.enrich item).flavor? = some flavor := by simp [enrich, hflavor]
    simp [derivedId?, hown, hmodule, hflavor]
  case namedPattern =>
    obtain ⟨holderId, hholder, hid⟩ := Option.bind_eq_some_iff.mp hid
    obtain ⟨name, hname, rfl⟩ := Option.map_eq_some_iff.mp hid
    have hholder : (a.enrich item).holderId? = some holderId :=
      preferText_of_mem_names hnames (by simp [Item.names]) hholder _
    have hscope : (a.enrich item).scopeName? = some name :=
      preferText_of_mem_names hnames (by simp [Item.names]) hname _
    simp [derivedId?, hown, hholder, hscope]
  all_goals contradiction

/-- What is found in a catalog gives an atom its payload. -/
theorem matched_enrich {r : Record} (hget : catalog.get? r.refId = some r)
    (hconsistent : r.Consistent) (hnames : some "" ∉ r.item.names) :
    (a.enrich r.item).Matched catalog := by
  have hkind : r.item.kind ∈ [AtomKind.standard, .module, .namedPattern, .provider] :=
    hconsistent.kind_mem
  have hown : (a.enrich r.item).kind = r.item.kind := rfl
  -- The kind is the record's, and no record is a reference or a set of files.
  refine ⟨?_, fun hother => ?_, fun hprovider => ?_, fun hfiles => ?_⟩
  · intro hk
    rw [← hown, hk] at hkind
    contradiction
  · exact ⟨r.refId, rfl, derivedId?_enrich hnames hother hconsistent.derivedId?_eq⟩
  · have hid := hconsistent.derivedId?_eq
    rw [hown] at hprovider
    simp only [Item.derivedId?, hprovider] at hid
    obtain ⟨providerId, hproviderId, -⟩ := Option.map_eq_some_iff.mp hid
    refine ⟨r.refId, r, providerId, rfl, hget, hprovider, hproviderId, ?_⟩
    exact preferText_of_mem_names hnames (by simp [Item.names]) hproviderId _
  · rw [← hown, hfiles] at hkind
    contradiction

/-- An atom of which the payload decides matches its reference, unless it is a set of files that is
out of order. -/
theorem matched_of_derivedId? (hreference : a.kind.isReference = false)
    (hrefId : a.refId? = some refId) (hid : a.derivedId? = some refId)
    (hfiles : a.kind = .fileSet → a.fileUrls ≠ [] ∧ a.fileUrls.Pairwise (· < ·)) :
    a.Matched catalog where
  kind_ne_catalogRef hk := by simp [hk, AtomKind.isReference] at hreference
  derived _ := ⟨refId, hrefId, hid⟩
  provided hk := by simp [hk, AtomKind.isReference] at hreference
  files := hfiles

/-- A normal form matches its reference, in a workspace where everything that is named has a
name. -/
theorem Normalizes.matched (h : Normalizes catalog ws allow a a')
    (hbuild : Snapshot.build ws providers policy order = .ok catalog) (hws : ws.Labelled)
    (hproviders : ∀ p ∈ providers, p.implementation ≠ "") : a'.Matched catalog := by
  -- Looked up, the payload is the record's; in every other rule the id was made from the payload.
  cases h with
  | @reference refId r hby hid hget hallowed =>
    obtain ⟨horigin, rfl⟩ := origin_of_get? hbuild hget
    exact matched_enrich hget (horigin.consistent hws) (horigin.names hws hproviders)
  | standard hby hkind hid =>
    exact matched_of_derivedId? (by simp [hkind, AtomKind.isReference]) rfl
      (by simp [derivedId?, hkind]) (by simp [hkind])
  | module hby hkind hname hflavor =>
    exact matched_of_derivedId? (by simp [hkind, AtomKind.isReference]) rfl
      (by simp [derivedId?, hkind, hflavor]) (by simp [hkind])
  | named hby hkind hname hholder | onlyHolder hby hkind hname hholder honly =>
    exact matched_of_derivedId? (by simp [withScope, hkind, AtomKind.isReference]) rfl
      (by simp [withScope, derivedId?, hkind]) (by simp [withScope, hkind])
  | pattern hkind htext hcanonical =>
    exact matched_of_derivedId? (by simp [withPattern, hkind, AtomKind.isReference]) rfl
      (by simp [withPattern, derivedId?, hkind]) (by simp [withPattern, hkind])
  | directory hkind hurl =>
    exact matched_of_derivedId? (by simp [hkind, AtomKind.isReference]) rfl
      (by simp [derivedId?, hkind]) (by simp [hkind])
  | files hkind hurls =>
    exact matched_of_derivedId? (by simp [hkind, AtomKind.isReference]) rfl
      (by simp [derivedId?, hkind]) fun _ => ⟨hurls, sorted_canonicalUrls a.fileUrls⟩

/-- Normal forms keep the choice between a directory and all that lies below it. -/
theorem Normalizes.recursive_eq (h : Normalizes catalog ws allow a a') :
    a'.recursive = a.recursive := by
  cases h <;> rfl

/-! ## Atoms that do not resolve -/

/-- Why an atom that is not malformed has no normal form, by what is not there. -/
inductive Unresolves (catalog : Snapshot) (ws : Workspace) (allow : Bool) (a : Atom) :
    Unresolved → Prop where
  | unknown {refId : String} (hby : catalog.resolvesByReference a = true)
    (hid : Text.present? a.refId? = some refId) (hget : catalog.get? refId = none) :
    Unresolves catalog ws allow a (.unknownReference refId)
  | hidden {refId : String} {r : Record} (hby : catalog.resolvesByReference a = true)
    (hid : Text.present? a.refId? = some refId) (hget : catalog.get? refId = some r)
    (hallowed : Snapshot.isAllowed allow r = false) :
    Unresolves catalog ws allow a (.needsInput refId)
  | noHolder {name : String} (hkind : a.kind = .namedPattern)
    (hname : Text.present? a.scopeName? = some name) (hholder : Text.present? a.holderId? = none)
    (hnone : ws.holdersOf name = []) : Unresolves catalog ws allow a (.unknownScope name)
  | holders {name : String} (hkind : a.kind = .namedPattern)
    (hname : Text.present? a.scopeName? = some name) (hholder : Text.present? a.holderId? = none)
    (hmany : 1 < (ws.holdersOf name).length) :
    Unresolves catalog ws allow a (.ambiguousScope name ((ws.holdersOf name).map (·.id)))
  | pattern {text : String} {e : PatternError} (hkind : a.kind = .adhocPattern)
    (htext : Text.present? a.pattern? = some text)
    (hcanonical : Pattern.canonical text = .error e) :
    Unresolves catalog ws allow a (.badPattern e)

/-- A payload that is required and missing is all that can be wrong with it. -/
theorem require_eq_error {value? : Option String} {payload : Payload} {e : AtomError}
    (h : a.require value? payload = .error e) : e = .missing a.kind payload := by
  unfold require at h
  split at h <;> cases h
  rfl

/-- A normal form that fails after its payload was found does not fail for lack of the payload. -/
theorem bind_require_eq_unresolved {α : Type} {value? : Option String} {payload : Payload}
    {f : String → Except AtomError α}
    (h : (a.require value? payload >>= f) = .error (.unresolved cause)) :
    ∃ value, Text.present? value? = some value ∧ f value = .error (.unresolved cause) := by
  rcases bind_eq_error.mp h with hmissing | ⟨value, hvalue, h⟩
  · cases require_eq_error hmissing
  · exact ⟨value, require_eq_ok.mp hvalue, h⟩

/-- Normalization that fails for what is not there follows one of the rules. -/
theorem unresolves_of_normalize (h : a.normalize catalog ws allow = .error (.unresolved cause)) :
    Unresolves catalog ws allow a cause := by
  -- Malformed atoms are refused by another error, so of each computation only what comes behind the
  -- payload is left.
  cases hby : catalog.resolvesByReference a with
  | true =>
    rw [normalize_of_reference hby] at h
    obtain ⟨refId, hid, h⟩ := bind_require_eq_unresolved h
    rcases bind_eq_error.mp h with h | ⟨_, -, h⟩
    · unfold lookUp at h
      split at h
      next hget =>
        cases h
        exact .unknown hby hid hget
      next r hget =>
        split at h
        · cases h
        next hallowed =>
          cases h
          exact .hidden hby hid hget (by simpa using hallowed)
    · contradiction
  | false =>
    rw [normalize_of_payload hby, normalizePayload] at h
    split at h
    next =>
      obtain ⟨_, -, h⟩ := bind_require_eq_unresolved h
      contradiction
    next =>
      obtain ⟨_, -, h⟩ := bind_require_eq_unresolved h
      split at h <;> cases h
    next hkind =>
      obtain ⟨name, hname, h⟩ := bind_require_eq_unresolved h
      split at h
      · contradiction
      next hholder =>
        split at h
        next hnone =>
          cases h
          exact .noHolder hkind hname hholder (List.map_eq_nil_iff.mp hnone)
        · contradiction
        next hnone hone =>
          cases h
          refine .holders hkind hname hholder ?_
          -- Neither no holder nor a single one is left.
          rcases hfound : ws.holdersOf name with _ | ⟨holder, _ | ⟨other, rest⟩⟩
          · exact (hnone (by rw [hfound]; rfl)).elim
          · exact (hone holder.id (by rw [hfound]; rfl)).elim
          · simp
    next hkind =>
      obtain ⟨text, htext, h⟩ := bind_require_eq_unresolved h
      split at h <;> cases h
      next e hcanonical => exact .pattern hkind htext hcanonical
    next =>
      obtain ⟨_, -, h⟩ := bind_require_eq_unresolved h
      contradiction
    next =>
      unfold normalizeFiles at h
      split at h <;> cases h
    all_goals cases h

/-- What stands for an atom that does not resolve is the atom itself, or the atom for a pattern's
trimmed text. -/
theorem Unresolves.fallback_cases (h : Unresolves catalog ws allow a cause) :
    a.kind ≠ .adhocPattern ∧ a.fallback cause = a ∨
      a.kind = .adhocPattern ∧ ∃ text e, Text.present? a.pattern? = some text ∧
        Pattern.canonical text = .error e ∧ cause = .badPattern e ∧
          a.fallback cause =
            { a with pattern? := some text, refId? := some (RefId.pattern text) } := by
  have hreference (hby : catalog.resolvesByReference a = true) : a.kind ≠ .adhocPattern := by
    intro hkind
    rw [resolvesByReference_of_isAdhoc (by rw [hkind]; rfl)] at hby
    contradiction
  cases h with
  | unknown hby | hidden hby => exact .inl ⟨hreference hby, rfl⟩
  | noHolder hkind | holders hkind => exact .inl ⟨by simp [hkind], rfl⟩
  | pattern hkind htext hcanonical =>
    refine .inr ⟨hkind, _, _, htext, hcanonical, rfl, ?_⟩
    simp only [fallback, htext, withPattern]

/-! ## Both policies -/

/-- The strict policy gives an error where an atom has no normal form. -/
theorem normalizeUnder_strict_eq_error {err : EngineError} :
    a.normalizeUnder .strict catalog ws allow = .error err ↔
      ∃ e, a.normalize catalog ws allow = .error e ∧ .ofAtom a.id e = err := by
  rw [normalizeUnder_strict]
  cases a.normalize catalog ws allow <;> simp

/-- In a workspace that comes from a manifest, with any presets beside, and with any providers, the
implementation of which always goes by a dotted path, what strict normalization gives matches its
reference id and keeps what does not belong to the payload, and lenient normalization gives the
same. Where something does not resolve, lenient normalization notes what the strict error says and
gives the atom itself, or a pattern's trimmed text under its own id. Both refuse malformed atoms
alike. -/
theorem normalForm_matches (json : Json) (given ws : Workspace) (presets : List Predicate)
    (providers : List Provider) (policy : CollisionPolicy) (order : List CatalogFamily)
    (catalog : Snapshot) (allow : Bool) (a : Atom)
    (hgiven : Workspace.ofManifest json = .ok given)
    (hws : ws = { given with extraPresets := presets })
    (hproviders : ∀ p ∈ providers, p.implementation ≠ "")
    (hbuild : Snapshot.build ws providers policy order = .ok catalog) :
    (∀ a' notes, a.normalizeUnder .strict catalog ws allow = .ok (a', notes) →
      a'.Matched catalog ∧ a'.id = a.id ∧ a'.onFailure? = a.onFailure? ∧
        a'.recursive = a.recursive ∧
        a.normalizeUnder .lenient catalog ws allow = .ok (a', notes) ∧ notes = []) ∧
    (∀ err, a.normalizeUnder .strict catalog ws allow = .error err → err.family = .resolution →
      ∃ b, a.normalizeUnder .lenient catalog ws allow = .ok (b, [err.message]) ∧
        (a.kind ≠ .adhocPattern ∧ b = a ∨
          a.kind = .adhocPattern ∧ ∃ text e, Text.present? a.pattern? = some text ∧
            Pattern.canonical text = .error e ∧ err = .unresolved a.id (.badPattern e) ∧
            b = { a with pattern? := some text, refId? := some (RefId.pattern text) })) ∧
    ∀ err, a.normalizeUnder .strict catalog ws allow = .error err → err.family ≠ .resolution →
      a.normalizeUnder .lenient catalog ws allow = .error err := by
  have hlabelled : ws.Labelled := by
    obtain ⟨hmodules, hholders⟩ := Workspace.labelled_of_ofManifest hgiven
    rw [hws]
    exact ⟨hmodules, hholders⟩
  refine ⟨fun a' notes h => ?_, fun err h hfamily => ?_, fun err h hfamily => ?_⟩
  · obtain ⟨hnormal, rfl⟩ := normalizeUnder_strict_eq_ok.mp h
    exact ⟨hnormal.matched hbuild hlabelled hproviders, hnormal.id_eq, hnormal.onFailure?_eq,
      hnormal.recursive_eq, normalizeUnder_eq_ok.mpr (.inl ⟨hnormal, rfl⟩), rfl⟩
  · obtain ⟨e, he, rfl⟩ := normalizeUnder_strict_eq_error.mp h
    cases e with
    | missing => contradiction
    | unresolved cause =>
      refine ⟨a.fallback cause, normalizeUnder_eq_ok.mpr (.inr ⟨rfl, cause, he, rfl, rfl⟩), ?_⟩
      rcases (unresolves_of_normalize he).fallback_cases with
        ⟨hkind, hsame⟩ | ⟨hkind, text, e, htext, hcanonical, rfl, hsame⟩
      · exact .inl ⟨hkind, hsame⟩
      · exact .inr ⟨hkind, text, e, htext, hcanonical, rfl, hsame⟩
  · obtain ⟨e, he, rfl⟩ := normalizeUnder_strict_eq_error.mp h
    cases e with
    | missing => simp only [normalizeUnder, he]
    | unresolved cause => exact absurd rfl hfamily

/-- An atom for a standard scope whose reference is that of a module. -/
def strayAtom : Atom where
  id := "a"
  kind := .standard
  refId? := some " module:core:module "
  standardId? := some "AllPlaces"
  onFailure? := some .skip

/-- An atom for a pattern that cannot be read. -/
def brokenAtom : Atom where
  id := "b"
  kind := .adhocPattern
  pattern? := some " && "

/-- The first becomes an atom for the module; of the second the lenient policy keeps the trimmed
text. -/
theorem normalForm_core :
    Workspace.ofManifest coreManifest = .ok coreWorkspace ∧
      (∀ p ∈ [pinsProvider], p.implementation ≠ "") ∧
      ∃ catalog, Snapshot.build coreWorkspace [pinsProvider] .lastWins [.module] = .ok catalog ∧
        (∃ a', strayAtom.normalizeUnder .strict catalog coreWorkspace false = .ok (a', []) ∧
          a'.kind = .module ∧ a'.Matched catalog ∧
          strayAtom.normalizeUnder .lenient catalog coreWorkspace false = .ok (a', [])) ∧
        brokenAtom.normalizeUnder .strict catalog coreWorkspace false =
          .error (.unresolved "b" (.badPattern ⟨.expectedTerm '&', 1⟩)) ∧
        brokenAtom.normalizeUnder .lenient catalog coreWorkspace false =
          .ok (brokenAtom.withPattern "&&", [PatternError.message ⟨.expectedTerm '&', 1⟩]) := by
  have hmanifest : Workspace.ofManifest coreManifest = .ok coreWorkspace := rfl
  have hnames : ∀ p ∈ [pinsProvider], p.implementation ≠ "" := by simp [pinsProvider]
  have hproviders : ∀ p ∈ [pinsProvider], p.Completes coreWorkspace := by
    simp [Provider.Completes, Provider.methods, pinsProvider]
  obtain ⟨catalog, hbuild⟩ := exists_build_iff.mpr hproviders
  have hmatches (a : Atom) :=
    normalForm_matches coreManifest coreWorkspace coreWorkspace [] [pinsProvider] .lastWins
      [.module] catalog false a hmanifest rfl hnames hbuild
  have hcore : { name := "core" } ∈ coreWorkspace.modules := List.mem_singleton_self _
  have hget := get?_module hbuild hcore .plain
  have hstray : strayAtom.normalizeUnder .strict catalog coreWorkspace false =
      .ok (strayAtom.enrich _, []) :=
    normalizeUnder_strict_eq_ok.mpr
      ⟨.reference (resolvesByReference_of_get? rfl (by decide) hget) (by decide) hget rfl, rfl⟩
  obtain ⟨hmatched, -, -, -, hlenient, -⟩ := (hmatches strayAtom).1 _ _ hstray
  have hbroken : brokenAtom.normalizeUnder .strict catalog coreWorkspace false =
      .error (.unresolved "b" (.badPattern ⟨.expectedTerm '&', 1⟩)) := by
    have hletter : Text.isLetter '&' = false := by decide +kernel
    have hcanonical : Pattern.canonical "&&" = .error ⟨.expectedTerm '&', 1⟩ := by
      rw [Pattern.canonical, Pattern.parse_of_stray rfl hletter (by decide) (by decide)]
      rfl
    have hnormalize : brokenAtom.normalizePattern =
        .error (.unresolved (.badPattern ⟨.expectedTerm '&', 1⟩)) :=
      bind_eq_error.mpr (.inr ⟨"&&", require_eq_ok.mpr (by decide), by rw [hcanonical]⟩)
    exact normalizeUnder_strict_eq_error.mpr ⟨_, hnormalize, rfl⟩
  obtain ⟨b, hb, ⟨hkind, -⟩ | ⟨-, text, e, htext, -, -, rfl⟩⟩ :=
    (hmatches brokenAtom).2.1 _ hbroken rfl
  · exact absurd rfl hkind
  · obtain rfl : "&&" = text := Option.some.inj htext
    exact ⟨hmanifest, hnames, catalog, hbuild, ⟨_, hstray, rfl, hmatched, hlenient⟩, hbroken, hb⟩

end Atom

end ScopeAlgebra
