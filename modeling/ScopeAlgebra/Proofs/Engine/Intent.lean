import ScopeAlgebra.Proofs.Catalog.Ranking
import ScopeAlgebra.Proofs.Catalog.Removal
import ScopeAlgebra.Proofs.Text.Slice

/-!
# Choosing scopes by intent

What is found for an intent is the start of one ranking, which the limit only cuts
(`findByIntent_ranked`). Whether it was cut, and whether there was nothing to cut, can be told from
the notes, since nothing that the catalog notes is worded as these are
(`Catalog.isNote_of_mem_diagnostics`).
-/

namespace ScopeAlgebra

variable {ws : Workspace} {providers : List Provider}

/-! ## What the catalog notes -/

namespace Catalog

/-- What is noted on providers names one of them first. -/
theorem exists_message_of_providerFamily {contributed : Contribution}
    (h : providerFamily ws providers = .ok contributed) {text : String}
    (htext : text ∈ contributed.diagnostics) :
    ∃ p ∈ providers, ∃ note : ProviderNote, text = note.message p.id := by
  induction providers generalizing contributed with
  | nil =>
    cases h
    exact absurd htext List.not_mem_nil
  | cons p rest ih =>
    obtain ⟨scopes, diagnostics, more, hcollect, hmore, rfl⟩ := providerFamily_cons_eq_ok.mp h
    rcases List.mem_append.mp htext with htext | htext
    · obtain ⟨found, -, -, rfl⟩ := Provider.collect_eq_ok.mp hcollect
      obtain ⟨note, -, rfl⟩ := List.mem_map.mp htext
      exact ⟨p, List.mem_cons_self, note, rfl⟩
    · obtain ⟨q, hq, hnote⟩ := ih hmore htext
      exact ⟨q, List.mem_cons_of_mem p hq, hnote⟩

/-- What is noted on named scopes is that one of them is left out. -/
theorem exists_skippedMessage_of_namedFamily {text : String}
    (htext : text ∈ (namedFamily ws).diagnostics) :
    ∃ holder scope e, text = skippedMessage holder scope e := by
  obtain ⟨contribution, hmem, htext⟩ := List.mem_flatMap.mp htext
  obtain ⟨holder, -, hmem⟩ := List.mem_flatMap.mp hmem
  obtain ⟨scope, -, rfl⟩ := List.mem_map.mp hmem
  unfold ofNamedScope at htext
  split at htext
  · exact absurd htext List.not_mem_nil
  · split at htext
    · exact absurd htext List.not_mem_nil
    next e _ => exact ⟨holder, scope, e, List.mem_singleton.mp htext⟩

/-- A text names a provider or a named scope first. -/
def IsNote (text : String) : Prop :=
  Text.hasHead "Provider '" text = true ∨ Text.hasHead "Named scope '" text = true

/-- A note on a provider starts with its word. -/
theorem isNote_message (providerId : String) (note : ProviderNote) :
    IsNote (note.message providerId) := by
  have hopening : Text.hasHead "Provider '" ("Provider '" ++ providerId) = true :=
    Text.hasHead_append_self _ _
  refine .inl ?_
  -- The texts go on differently, but all of them behind the provider.
  cases note with
  | failed | notCollection =>
    iterate 5 apply Text.hasHead_append
    exact hopening
  | ignored =>
    iterate 3 apply Text.hasHead_append
    exact hopening
  | noMethod => exact Text.hasHead_append hopening _

/-- A note on a named scope that is left out starts with its word. -/
theorem isNote_skippedMessage (holder : Holder) (scope : NamedScope) (e : PatternError) :
    IsNote (skippedMessage holder scope e) := by
  have hopening : Text.hasHead "Named scope '" ("Named scope '" ++ scope.name) = true :=
    Text.hasHead_append_self _ _
  refine .inr ?_
  iterate 4 apply Text.hasHead_append
  exact hopening

/-- Whatever the catalog notes is on a provider or on a named scope. -/
theorem isNote_of_mem_diagnostics {policy : CollisionPolicy} {order : List CatalogFamily}
    {catalog : Snapshot} (hbuild : Snapshot.build ws providers policy order = .ok catalog)
    {text : String} (htext : text ∈ catalog.diagnostics) : IsNote text := by
  obtain ⟨contributed, hproviders⟩ :=
    exists_providerFamily_iff.mpr (exists_build_iff.mp ⟨catalog, hbuild⟩)
  rw [build_eq_parts hproviders] at hbuild
  cases hbuild
  rcases mem_parts_diagnostics_iff.mp (List.mem_eraseDups.mp htext) with htext | htext
  · obtain ⟨p, -, note, rfl⟩ := exists_message_of_providerFamily hproviders htext
    exact isNote_message p.id note
  · obtain ⟨holder, scope, e, rfl⟩ := exists_skippedMessage_of_namedFamily htext
    exact isNote_skippedMessage holder scope e

end Catalog

/-! ## What is listed -/

namespace Engine

variable {e : Engine} {allow? : Option Bool} {listing : Listing}

/-- What is listed is what may be used of a snapshot, under its notes. -/
theorem list_eq_ok :
    e.list allow? = .ok listing ↔ ∃ catalog,
      Snapshot.build e.workspace e.providers e.settings.collisions e.settings.familyOrder =
        .ok catalog ∧
      ⟨catalog.items (allow?.getD e.settings.allowInteractive), catalog.diagnostics⟩ =
        listing := by
  constructor
  · intro h
    obtain ⟨catalog, hcatalog, hlisting⟩ := bind_eq_ok.mp h
    exact ⟨catalog, mapError_eq_ok.mp hcatalog, Except.ok.inj hlisting⟩
  · rintro ⟨catalog, hbuild, rfl⟩
    exact bind_eq_ok.mpr ⟨catalog, mapError_eq_ok.mpr hbuild, rfl⟩

/-- The catalog is listed exactly when the answers of all providers can be read to the end. -/
theorem exists_list_iff :
    (∃ listing, e.list allow? = .ok listing) ↔ ∀ p ∈ e.providers, p.Completes e.workspace := by
  rw [← Catalog.exists_build_iff]
  constructor
  · rintro ⟨listing, hlist⟩
    obtain ⟨catalog, hbuild, -⟩ := list_eq_ok.mp hlist
    exact ⟨catalog, hbuild⟩
  · rintro ⟨catalog, hbuild⟩
    exact ⟨_, list_eq_ok.mpr ⟨catalog, hbuild, rfl⟩⟩

/-- What is noted on a listing is on a provider or on a named scope. -/
theorem isNote_of_list (hlist : e.list allow? = .ok listing) {text : String}
    (htext : text ∈ listing.diagnostics) : Catalog.IsNote text := by
  obtain ⟨catalog, hbuild, rfl⟩ := list_eq_ok.mp hlist
  exact Catalog.isNote_of_mem_diagnostics hbuild htext

/-- No item is listed twice. -/
theorem nodup_of_list (hlist : e.list allow? = .ok listing) :
    (listing.items.map Item.refId).Nodup := by
  obtain ⟨catalog, hbuild, rfl⟩ := list_eq_ok.mp hlist
  obtain ⟨all, -, hrecords⟩ := bind_eq_ok.mp hbuild
  cases hrecords
  rw [Snapshot.items, List.map_map]
  exact (Registry.nodup_ofList _).sublist (List.filter_sublist.map Record.refId)

end Engine

/-! ## The start of a ranking -/

/-- What is found for an intent is the start of a ranking, as far as the limit allows, and the notes
tell whether it was cut and whether there was anything. -/
structure IntentListing.StartOf (intent : Intent) (limit : Int) (ranking : List Item)
    (found : IntentListing) : Prop where
  items : found.items = ranking.take limit.toNat
  recommended? : found.recommended? = ranking.head?.map Item.refId
  cut_iff : Intent.cutMessage limit ∈ found.diagnostics ↔ limit < ranking.length
  nothing_iff : intent.nothingFoundMessage ∈ found.diagnostics ↔ ranking = []

namespace Intent

variable {intent : Intent} {limit : Int}

/-- The note that nothing was found has a start of its own. -/
theorem hasHead_nothingFoundMessage (intent : Intent) :
    Text.hasHead "No catalog items matched intent=" intent.nothingFoundMessage = true :=
  Text.hasHead_append (Text.hasHead_append_self _ _) _

/-- The note that the ranking was cut has a start of its own. -/
theorem hasHead_cutMessage (limit : Int) :
    Text.hasHead "Matched catalog items exceed max_results=" (cutMessage limit) = true :=
  Text.hasHead_append (Text.hasHead_append_self _ _) _

/-- The catalog never notes that nothing was found. -/
theorem nothingFoundMessage_ne (intent : Intent) {text : String} (htext : Catalog.IsNote text) :
    intent.nothingFoundMessage ≠ text := by
  have hhead := hasHead_nothingFoundMessage intent
  rcases htext with htext | htext <;> exact Text.ne_of_hasHead hhead htext (by decide +kernel)

/-- The catalog never notes that a ranking was cut. -/
theorem cutMessage_ne (limit : Int) {text : String} (htext : Catalog.IsNote text) :
    cutMessage limit ≠ text := by
  rcases htext with htext | htext <;> exact Text.ne_of_hasHead (hasHead_cutMessage limit) htext
    (by decide +kernel)

/-- The two notes on a ranking are different. -/
theorem nothingFoundMessage_ne_cutMessage (intent : Intent) (limit : Int) :
    intent.nothingFoundMessage ≠ cutMessage limit :=
  Text.ne_of_hasHead (hasHead_nothingFoundMessage intent) (hasHead_cutMessage limit)
    (by decide +kernel)

/-- What is noted on a listing for an intent: all that was noted before, that there is nothing, and
that it was cut. -/
theorem mem_listingOf_diagnostics_iff {available : Listing} {text : String} (hlimit : 1 ≤ limit) :
    text ∈ (intent.listingOf limit available).diagnostics ↔
      text ∈ available.diagnostics ∨
        (text = intent.nothingFoundMessage ∧
          Item.ranked (available.items.filter intent.isServedBy) = []) ∨
            (text = cutMessage limit ∧
            limit < (Item.ranked (available.items.filter intent.isServedBy)).length) := by
  generalize hranking : Item.ranked (available.items.filter intent.isServedBy) = ranking
  have htake : (ranking.take limit.toNat).isEmpty = true ↔ ranking = [] := by
    rw [List.isEmpty_iff, List.take_eq_nil_iff]
    exact or_iff_right (by omega)
  simp only [listingOf, hranking, mergeDiagnostics, List.flatten_cons, List.flatten_nil,
    List.append_nil, List.mem_eraseDups, List.mem_append, or_assoc]
  refine or_congr Iff.rfl (or_congr ?_ ?_)
  · split
    next hempty => simp [htake.mp hempty]
    next hempty => simp [mt htake.mpr hempty]
  · split
    next hcut => simpa using fun _ => hcut
    next hcut => simpa using fun _ => hcut

/-- A listing for an intent is the start of the ranking of all that serve it. -/
theorem startOf_listingOf {available : Listing} (hlimit : 1 ≤ limit)
    (hnotes : ∀ text ∈ available.diagnostics, Catalog.IsNote text) :
    (intent.listingOf limit available).StartOf intent limit
      (Item.ranked (available.items.filter intent.isServedBy)) where
  items := rfl
  recommended? := by
    have hpositive : limit.toNat ≠ 0 := by omega
    simp [listingOf, List.head?_take, hpositive]
  cut_iff := by
    rw [mem_listingOf_diagnostics_iff hlimit]
    have hfresh : cutMessage limit ∉ available.diagnostics :=
      fun h => cutMessage_ne limit (hnotes _ h) rfl
    simp [hfresh, (nothingFoundMessage_ne_cutMessage intent limit).symm]
  nothing_iff := by
    rw [mem_listingOf_diagnostics_iff hlimit]
    have hfresh : intent.nothingFoundMessage ∉ available.diagnostics := fun h =>
      nothingFoundMessage_ne intent (hnotes _ h) rfl
    simp [hfresh, nothingFoundMessage_ne_cutMessage intent limit]

end Intent

namespace Engine

/-- With a limit that is allowed, what is found is the start of the ranking of what is listed. -/
theorem findByIntent_of_list {e : Engine} {intent : Intent} {limit : Int} {allow? : Option Bool}
    (hlimit : 1 ≤ limit) :
    e.findByIntent intent limit allow? = (e.list allow?).map (intent.listingOf limit) :=
  if_neg (by omega)

/-- The catalog is listed exactly when the answers of all providers can be read to the end; where it
is not, searching it for an intent fails with the same error. Where it is, the items that serve the
intent have one ranking: they are ordered by whether they need input, whether they are unstable and
their lower-cased names, and keep the order of the catalog where these are equal. What is found is
the start of that ranking, whatever the limit, so a smaller limit gives a start of what a larger one
gives. -/
theorem findByIntent_ranked (e : Engine) (intent : Intent) (allow : Bool) :
    ((∃ listing, e.list (some allow) = .ok listing) ↔ ∀ p ∈ e.providers, p.Completes e.workspace) ∧
      (∀ err, e.list (some allow) = .error err →
        ∀ limit, 1 ≤ limit → e.findByIntent intent limit (some allow) = .error err) ∧
      ∀ listing, e.list (some allow) = .ok listing → ∃ ranking,
        StablySorted Item.sortKey (listing.items.filter intent.isServedBy) ranking ∧
        (∀ other, StablySorted Item.sortKey (listing.items.filter intent.isServedBy) other →
          other = ranking) ∧
        (ranking.map Item.refId).Nodup ∧
        ∀ limit, 1 ≤ limit → ∃ found, e.findByIntent intent limit (some allow) = .ok found ∧
          found.StartOf intent limit ranking ∧ (found.recommended? = none ↔ ranking = []) ∧
          ∀ smaller found', 1 ≤ smaller → smaller ≤ limit →
            e.findByIntent intent smaller (some allow) = .ok found' →
              found'.items <+: found.items := by
  refine ⟨exists_list_iff, fun err herr limit hlimit => ?_, fun listing hlist => ?_⟩
  · rw [findByIntent_of_list hlimit, herr]
    rfl
  have hranked := Item.stablySorted_ranked (listing.items.filter intent.isServedBy)
  have hfound (limit : Int) (hlimit : 1 ≤ limit) :
      e.findByIntent intent limit (some allow) = .ok (intent.listingOf limit listing) := by
    rw [findByIntent_of_list hlimit, hlist]
    rfl
  refine ⟨_, hranked, fun other hother => hother.unique hranked, ?_, fun limit hlimit =>
    ⟨_, hfound limit hlimit, ?_, ?_, ?_⟩⟩
  · refine ((hranked.perm.map Item.refId).nodup_iff).mpr ?_
    exact (nodup_of_list hlist).sublist (List.filter_sublist.map Item.refId)
  · exact Intent.startOf_listingOf hlimit fun text htext => isNote_of_list hlist htext
  · rw [(Intent.startOf_listingOf hlimit fun text htext => isNote_of_list hlist htext).recommended?]
    simp
  · rintro smaller found' hsmaller hle hfound'
    -- Both are starts of one ranking, and the smaller limit gives the shorter one.
    cases (hfound smaller hsmaller).symm.trans hfound'
    exact List.take_prefix_take_left (by omega)

/-- An engine one of whose providers fails and another has no methods. -/
def vendoredEngine : Engine where
  workspace := Catalog.vendoredWorkspace
  providers := [Catalog.flakyProvider, Catalog.muteProvider]

/-- Its catalog is listed all the same, and the first item that is found stays the same when more
are asked for. -/
theorem findByIntent_ranked_vendored :
    ∃ listing first all, vendoredEngine.list (some false) = .ok listing ∧
      vendoredEngine.findByIntent .projectOnly 1 (some false) = .ok first ∧
      vendoredEngine.findByIntent .projectOnly 20 (some false) = .ok all ∧
      first.items <+: all.items ∧ first.recommended? = all.recommended? := by
  obtain ⟨hlisted, -, hranked⟩ := findByIntent_ranked vendoredEngine .projectOnly false
  have hproviders : ∀ p ∈ vendoredEngine.providers, p.Completes vendoredEngine.workspace := by
    simp [vendoredEngine, Provider.Completes, Provider.methods, Catalog.flakyProvider,
      Catalog.muteProvider, or_imp, forall_and]
  obtain ⟨listing, hlist⟩ := hlisted.mpr hproviders
  obtain ⟨ranking, -, -, -, hstarts⟩ := hranked listing hlist
  obtain ⟨first, hfirst, hone, -, -⟩ := hstarts 1 (by decide)
  obtain ⟨all, hall, htwenty, -, hprefix⟩ := hstarts 20 (by decide)
  exact ⟨listing, first, all, hlist, hfirst, hall, hprefix 1 first (by decide) (by decide) hfirst,
    hone.recommended?.trans htwenty.recommended?.symm⟩

end Engine

end ScopeAlgebra
