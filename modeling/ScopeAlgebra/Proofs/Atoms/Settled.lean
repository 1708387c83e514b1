import ScopeAlgebra.Proofs.Atoms.Normal
import ScopeAlgebra.Proofs.Catalog.Families
import ScopeAlgebra.Proofs.Pattern.Margins

/-!
# Which normal forms stay as they are

A normal form that was made from a payload may be looked up by its new reference the next time, and
the look-up changes other fields than the payload did. `normalizes_self_iff` says which normal forms
are their own normal forms.
-/

namespace ScopeAlgebra.Atom

open Catalog

variable {ws : Workspace} {providers : List Provider} {policy : CollisionPolicy}
  {order : List CatalogFamily} {catalog : Snapshot} {allow : Bool} {a a' : Atom} {r : Record}
  {refId : String}

/-- A normal form that nothing remains to be done about. -/
structure Settled (catalog : Snapshot) (allow : Bool) (a : Atom) : Prop where
  /-- The record that the atom refers to may be used, holds no other names, and the urls are in
  order. -/
  listed : ∀ refId r, a.kind.isAdhoc = false → a.refId? = some refId → catalog.get? refId = some r →
    Snapshot.isAllowed allow r = true ∧ canonicalUrls a.fileUrls = a.fileUrls ∧
      preferText r.item.scopeName? a.scopeName? = a.scopeName? ∧
      preferText r.item.holderId? a.holderId? = a.holderId?
  /-- The holder of a named scope that is not in the catalog is named by a trimmed id, or by a blank
  one. -/
  unlisted : ∀ refId holderId, a.kind = .namedPattern → a.refId? = some refId →
    catalog.get? refId = none → a.holderId? = some holderId →
      Text.isBlankText holderId = true ∨ Text.trim holderId = holderId
  /-- A pattern does not end in white space. -/
  pattern : ∀ text, a.kind = .adhocPattern → a.pattern? = some text → Text.trim text = text

/-! ## Normal forms that are looked up -/

/-- The data of an item that does not vary between an atom and the record that its id stands for. -/
structure Fits (item : Item) (a : Atom) : Prop where
  kind : item.kind = a.kind
  standardId : preferText item.serializationId? a.standardId? = a.standardId?
  moduleName : preferText item.moduleName? a.moduleName? = a.moduleName?
  flavor : (item.flavor? <|> a.flavor?) = a.flavor?
  providerId : preferText item.providerId? a.providerId? = a.providerId?

/-- A fitting record adds nothing when the urls are in order and its names are those of the atom. -/
theorem Fits.enrich_eq_self_iff (h : Fits r.item a) (hid : a.refId? = some r.refId) :
    a.enrich r.item = a ↔ canonicalUrls a.fileUrls = a.fileUrls ∧
      preferText r.item.scopeName? a.scopeName? = a.scopeName? ∧
        preferText r.item.holderId? a.holderId? = a.holderId? := by
  obtain ⟨hkind, hstandard, hmodule, hflavor, hprovider⟩ := h
  have hrefId : some r.item.refId = a.refId? := hid.symm
  -- Field by field: those that the record fits drop out, and the urls and the names are left.
  rcases a with ⟨id, kind, refId?, standardId?, moduleName?, flavor?, scopeName?, holderId?,
    pattern?, directoryUrl?, recursive, fileUrls, providerId?, onFailure?⟩
  simp only [enrich, Atom.mk.injEq, hkind, hrefId, hstandard, hmodule, hflavor, hprovider,
    true_and, and_true]
  tauto

/-- A normal form that is in the catalog stays as it is when it is settled. -/
theorem normalizes_self_iff_of_listed (hkind : a.kind.isAdhoc = false)
    (hid : a.refId? = some refId) (hpresent : Text.present? (some refId) = some refId)
    (hget : catalog.get? refId = some r) (hrefId : r.refId = refId) (hfits : Fits r.item a) :
    Normalizes catalog ws allow a a ↔ a.Settled catalog allow := by
  subst hrefId
  have hby : catalog.resolvesByReference a = true :=
    resolvesByReference_of_get? hkind (hid ▸ hpresent) hget
  rw [← normalize_eq_ok, normalize_of_reference hby, normalizeReference_eq_ok, hid]
  constructor
  · rintro ⟨refId', hrefId', r', hget', hallowed, henrich⟩
    obtain rfl : refId' = r.refId := Option.some.inj (hrefId'.symm.trans hpresent)
    obtain rfl : r' = r := Option.some.inj (hget'.symm.trans hget)
    refine ⟨fun refId r'' _ hid' hget'' => ?_, fun refId holderId _ hid' hnone => ?_,
      fun text hadhoc => ?_⟩
    · obtain rfl : refId = r'.refId := Option.some.inj (hid'.symm.trans hid)
      obtain rfl : r'' = r' := Option.some.inj (hget''.symm.trans hget)
      exact ⟨hallowed, (hfits.enrich_eq_self_iff hid).mp henrich⟩
    · obtain rfl : refId = r'.refId := Option.some.inj (hid'.symm.trans hid)
      rw [hget] at hnone
      cases hnone
    · rw [hadhoc] at hkind
      cases hkind
  · intro hsettled
    obtain ⟨hallowed, hrest⟩ := hsettled.listed r.refId r hkind hid hget
    exact ⟨r.refId, hpresent, r, hget, hallowed, (hfits.enrich_eq_self_iff hid).mpr hrest⟩

/-- An atom that was looked up fits the record that it was found under. -/
theorem fits_enrich (a : Atom) (item : Item) : Fits item (a.enrich item) where
  kind := rfl
  standardId := preferText_preferText ..
  moduleName := preferText_preferText ..
  flavor := by cases h : item.flavor? <;> simp [enrich, h]
  providerId := preferText_preferText ..

/-! ## Normal forms that are not in the catalog -/

/-- A normal form that is not in the catalog is settled, unless it is that of a named scope or a
pattern. -/
theorem settled_of_unlisted (hid : a.refId? = some refId) (hget : catalog.get? refId = none)
    (hnamed : a.kind ≠ .namedPattern) (hpattern : a.kind ≠ .adhocPattern) :
    a.Settled catalog allow := by
  refine ⟨fun refId' r _ hid' hget' => ?_, fun _ _ hkind => absurd hkind hnamed,
    fun _ hkind => absurd hkind hpattern⟩
  obtain rfl : refId' = refId := Option.some.inj (hid'.symm.trans hid)
  rw [hget] at hget'
  cases hget'

/-- An atom of an ad-hoc kind other than a pattern is settled. -/
theorem settled_of_isAdhoc (hkind : a.kind.isAdhoc = true) (hpattern : a.kind ≠ .adhocPattern) :
    a.Settled catalog allow := by
  refine ⟨fun _ _ hadhoc => ?_, fun _ _ hnamed => ?_, fun _ hkind => absurd hkind hpattern⟩
  · rw [hkind] at hadhoc
    cases hadhoc
  · rw [hnamed] at hkind
    cases hkind

/-! ## The kinds of atoms -/

/-- A normal form with a payload is looked up when the catalog knows its reference, and described by
its payload otherwise. -/
theorem normalizes_self_iff_of_payload (hadhoc : a.kind.isAdhoc = false)
    (hreference : a.kind.isReference = false) (hid : a.refId? = some refId)
    (hpresent : Text.present? (some refId) = some refId) (hpayload : a.hasPayload = true)
    (hfits : ∀ r, catalog.get? refId = some r → r.refId = refId ∧ Fits r.item a)
    (hunlisted : catalog.get? refId = none → catalog.resolvesByReference a = false →
      (Normalizes catalog ws allow a a ↔ a.Settled catalog allow)) :
    Normalizes catalog ws allow a a ↔ a.Settled catalog allow := by
  -- A new reference may be known to the catalog, and then it is not the payload that decides.
  cases hget : catalog.get? refId with
  | some r =>
    obtain ⟨hrefId, hfits⟩ := hfits r hget
    exact normalizes_self_iff_of_listed hadhoc hid hpresent hget hrefId hfits
  | none =>
    refine hunlisted hget (resolvesByReference_of_payload hreference hpayload fun refId' h => ?_)
    rw [hid, hpresent] at h
    rw [← Option.some.inj h, hget]

/-- The normal form of a standard scope stays as it is when it is settled. -/
theorem normalizes_self_iff_standard
    (hbuild : Snapshot.build ws providers policy order = .ok catalog) {scopeId : String}
    (hkind : a.kind = .standard) (hpresent : Text.present? (some scopeId) = some scopeId)
    (ha : a' = { a with standardId? := some scopeId, refId? := some (RefId.standard scopeId) }) :
    Normalizes catalog ws allow a' a' ↔ a'.Settled catalog allow := by
  subst ha
  refine normalizes_self_iff_of_payload (by simp [hkind, AtomKind.isAdhoc])
    (by simp [hkind, AtomKind.isReference]) rfl (RefId.present?_standard hpresent)
    (by simp [hasPayload, hkind, hpresent]) (fun r hget => ?_) fun hget hby => ?_
  · obtain ⟨horigin, hr⟩ := origin_of_get? hbuild hget
    obtain ⟨scope, p, rfl, rfl⟩ := horigin.of_standard hr
    exact ⟨hr, hkind.symm, preferText_of_ne_empty (Text.ne_empty_of_present? hpresent) _,
      rfl, rfl, rfl⟩
  · exact iff_of_true (.standard hby hkind hpresent) (settled_of_unlisted rfl hget (by simp [hkind])
      (by simp [hkind]))

/-- The normal form of a module's scope stays as it is when it is settled. -/
theorem normalizes_self_iff_module
    (hbuild : Snapshot.build ws providers policy order = .ok catalog) {name : String}
    {flavor : ModuleFlavor} (hkind : a.kind = .module)
    (hpresent : Text.present? (some name) = some name) (hflavor : a.flavor? = some flavor)
    (ha : a' = { a with moduleName? := some name, refId? := some (RefId.module name flavor) }) :
    Normalizes catalog ws allow a' a' ↔ a'.Settled catalog allow := by
  subst ha
  refine normalizes_self_iff_of_payload (by simp [hkind, AtomKind.isAdhoc])
    (by simp [hkind, AtomKind.isReference]) rfl RefId.present?_module
    (by simp [hasPayload, hkind, hpresent, hflavor]) (fun r hget => ?_) fun hget hby => ?_
  · obtain ⟨horigin, hr⟩ := origin_of_get? hbuild hget
    obtain ⟨m, hm, rfl, rfl⟩ := horigin.of_module hr
    exact ⟨hr, hkind.symm, rfl, preferText_of_ne_empty (Text.ne_empty_of_present? hpresent) _,
      hflavor.symm, rfl⟩
  · exact iff_of_true (.module hby hkind hpresent hflavor)
      (settled_of_unlisted rfl hget (by simp [hkind]) (by simp [hkind]))

/-- The normal form of a named scope that is not in the catalog stays as it is when its holder is
named by a trimmed id, or by a blank one and still the only one. -/
theorem normalizes_self_iff_unlisted {name holderId : String} (hkind : a.kind = .namedPattern)
    (hpresent : Text.present? (some name) = some name)
    (hholder : Text.present? (some holderId) = some holderId ∨
      ∃ holder, ws.holdersOf name = [holder] ∧ holder.id = holderId)
    (hget : catalog.get? (RefId.named holderId name) = none)
    (hby : catalog.resolvesByReference (a.withScope holderId name) = false) :
    Normalizes catalog ws allow (a.withScope holderId name) (a.withScope holderId name) ↔
      (a.withScope holderId name).Settled catalog allow := by
  have hkind' : (a.withScope holderId name).kind = .namedPattern := hkind
  have hsettled : (a.withScope holderId name).Settled catalog allow ↔
      Text.isBlankText holderId = true ∨ Text.trim holderId = holderId := by
    constructor
    · exact fun h => h.unlisted (RefId.named holderId name) holderId hkind rfl hget rfl
    · intro h
      refine ⟨fun refId r _ hid hget' => ?_, fun _ _ _ _ _ hid => ?_, fun _ hpattern => ?_⟩
      · cases hid
        rw [hget] at hget'
        cases hget'
      · cases hid
        exact h
      · rw [hkind'] at hpattern
        cases hpattern
  rw [hsettled]
  -- A blank holder counts as none, and then the only holder of the name is asked for again.
  by_cases hblank : Text.isBlankText holderId = true
  · refine iff_of_true ?_ (.inl hblank)
    have hnone : Text.present? (some holderId) = none := by simp [Text.present?, hblank]
    obtain ⟨holder, honly, rfl⟩ := hholder.resolve_left (by simp [hnone])
    exact .onlyHolder hby hkind hpresent hnone honly
  · have hsome : Text.present? (some holderId) = some (Text.trim holderId) := by
      simp [Text.present?, hblank]
    constructor
    · intro h
      have hpayload : (a.withScope holderId name).normalizePayload ws =
          (a.withScope holderId name).normalizeNamed ws := by rw [normalizePayload, hkind']
      rw [← normalize_eq_ok, normalize_of_payload hby, hpayload, normalizeNamed_eq_ok] at h
      obtain ⟨name', -, ⟨holderId', hholder', hsame⟩ | ⟨hnone, -⟩⟩ := h
      · obtain rfl : holderId' = Text.trim holderId := Option.some.inj (hholder'.symm.trans hsome)
        exact .inr (Option.some.inj (congrArg Atom.holderId? hsame))
      · rw [show (a.withScope holderId name).holderId? = some holderId from rfl, hsome] at hnone
        cases hnone
    · intro h
      have htrim : Text.trim holderId = holderId := h.resolve_left hblank
      rw [htrim] at hsome
      exact .named hby hkind hpresent hsome

/-- The normal form of a named scope stays as it is when it is settled. -/
theorem normalizes_self_iff_named
    (hbuild : Snapshot.build ws providers policy order = .ok catalog) {name holderId : String}
    (hkind : a.kind = .namedPattern) (hpresent : Text.present? (some name) = some name)
    (hholder : Text.present? (some holderId) = some holderId ∨
      ∃ holder, ws.holdersOf name = [holder] ∧ holder.id = holderId) :
    Normalizes catalog ws allow (a.withScope holderId name) (a.withScope holderId name) ↔
      (a.withScope holderId name).Settled catalog allow := by
  refine normalizes_self_iff_of_payload (by simp [withScope, hkind, AtomKind.isAdhoc])
    (by simp [withScope, hkind, AtomKind.isReference]) rfl (RefId.present?_named hpresent)
    (by simp [withScope, hasPayload, hkind, hpresent]) (fun r hget => ?_) fun hget hby => ?_
  · obtain ⟨horigin, hr⟩ := origin_of_get? hbuild hget
    obtain ⟨holder, -, scope, -, text, p, -, -, rfl⟩ := horigin.of_named hr
    exact ⟨hr, hkind.symm, rfl, rfl, rfl, rfl⟩
  · exact normalizes_self_iff_unlisted hkind hpresent hholder hget hby

/-- The normal form of a pattern stays as it is when its text is trimmed. -/
theorem normalizes_self_iff_pattern {text canonical : String} (hkind : a.kind = .adhocPattern)
    (hcanonical : Pattern.canonical text = .ok canonical) :
    Normalizes catalog ws allow (a.withPattern canonical) (a.withPattern canonical) ↔
      (a.withPattern canonical).Settled catalog allow := by
  have hkind' : (a.withPattern canonical).kind = .adhocPattern := hkind
  -- Canonical texts are their own canonical texts, but what is read again is the trimmed text.
  have hself : Pattern.canonical canonical = .ok canonical := Pattern.canonical_canonical hcanonical
  have hsome : Text.present? (some canonical) = some (Text.trim canonical) := by
    simp [Text.present?, Pattern.isBlankText_of_canonical hcanonical]
  constructor
  · intro h
    have hpayload : (a.withPattern canonical).normalizePayload ws =
        (a.withPattern canonical).normalizePattern := by
      rw [normalizePayload, hkind']
    rw [← normalize_eq_ok, normalize_of_payload
      (resolvesByReference_of_isAdhoc (by rw [hkind']; rfl)), hpayload, normalizePattern_eq_ok] at h
    obtain ⟨text', htext', canonical', hcanonical', hsame⟩ := h
    obtain rfl : text' = Text.trim canonical := Option.some.inj (htext'.symm.trans hsome)
    obtain rfl : canonical' = canonical := Option.some.inj (congrArg Atom.pattern? hsame)
    refine ⟨fun _ _ hadhoc => ?_, fun _ _ hnamed => ?_, fun text _ htext => ?_⟩
    · rw [hkind'] at hadhoc
      cases hadhoc
    · rw [hkind'] at hnamed
      cases hnamed
    · cases htext
      exact Pattern.trim_eq_of_canonical hself hcanonical'
  · intro h
    have htrim : Text.trim canonical = canonical := h.pattern canonical hkind rfl
    rw [htrim] at hsome
    exact .pattern hkind hsome hself

/-- A normal form is its own normal form exactly when it is settled. -/
theorem normalizes_self_iff (hbuild : Snapshot.build ws providers policy order = .ok catalog)
    (h : Normalizes catalog ws allow a a') :
    Normalizes catalog ws allow a' a' ↔ a'.Settled catalog allow := by
  -- The id of a normal form says how it is read the next time.
  cases h with
  | @reference refId r hby hid hget hallowed =>
    obtain ⟨horigin, rfl⟩ := origin_of_get? hbuild hget
    exact normalizes_self_iff_of_listed horigin.isAdhoc_kind rfl
      (Text.present?_of_present? hid) hget rfl (fits_enrich a r.item)
  | standard hby hkind hid =>
    exact normalizes_self_iff_standard hbuild hkind (Text.present?_of_present? hid) rfl
  | module hby hkind hname hflavor =>
    exact normalizes_self_iff_module hbuild hkind (Text.present?_of_present? hname) hflavor rfl
  | named hby hkind hname hholder =>
    exact normalizes_self_iff_named hbuild hkind (Text.present?_of_present? hname)
      (.inl (Text.present?_of_present? hholder))
  | onlyHolder hby hkind hname hholder honly =>
    exact normalizes_self_iff_named hbuild hkind (Text.present?_of_present? hname)
      (.inr ⟨_, honly, rfl⟩)
  | pattern hkind htext hcanonical => exact normalizes_self_iff_pattern hkind hcanonical
  | directory hkind hurl =>
    exact iff_of_true (.directory hkind (Text.present?_of_present? hurl))
      (settled_of_isAdhoc (by simp [hkind, AtomKind.isAdhoc]) (by simp [hkind]))
  | files hkind hurls =>
    refine iff_of_true ?_ (settled_of_isAdhoc (by simp [hkind, AtomKind.isAdhoc]) (by simp [hkind]))
    let normal : Atom :=
      { a with
        fileUrls := canonicalUrls a.fileUrls,
        refId? := some (RefId.files (canonicalUrls a.fileUrls)) }
    have hurls : canonicalUrls normal.fileUrls = normal.fileUrls :=
      canonicalUrls_canonicalUrls a.fileUrls
    have hnormal : Normalizes catalog ws allow normal
        { normal with
          fileUrls := canonicalUrls normal.fileUrls,
          refId? := some (RefId.files (canonicalUrls normal.fileUrls)) } :=
      .files hkind (by rwa [hurls])
    rwa [hurls] at hnormal

end ScopeAlgebra.Atom
