import ScopeAlgebra.Proofs.Catalog.Isolation

/-!
# Taking a provider away

All providers register into one catalog and leave their notes in one list. Each keeps to its own
part all the same: the reference ids of its scopes start from its provider id, and registration
treats ids apart (`Registry.filter_ofList`). So a catalog without one of its providers differs from
the full one only where that provider's ids stand (`build_without_provider`).
-/

namespace ScopeAlgebra

/-- A reference id is that of a scope that goes by a provider's id. -/
def Provider.Owns (p : Provider) (refId : String) : Prop :=
  ∃ displayName implementation, refId = RefId.provider p.id displayName implementation

namespace Catalog

variable {ws : Workspace} {p : Provider} {front back : List Provider}
  {contributed contributed' : Contribution}

/-- Providers contribute what the first of them and then the others do. -/
theorem providerFamily_append {first second : Contribution}
    (hfront : providerFamily ws front = .ok first) (hback : providerFamily ws back = .ok second) :
    providerFamily ws (front ++ back) = .ok (first.append second) := by
  -- Providers in front are collected from first, whatever follows them.
  induction front generalizing first with
  | nil =>
    cases hfront
    exact hback
  | cons p rest ih =>
    obtain ⟨scopes, diagnostics, more, hcollect, hmore, rfl⟩ := providerFamily_cons_eq_ok.mp hfront
    refine providerFamily_cons_eq_ok.mpr ⟨scopes, diagnostics, _, hcollect, ih hmore, ?_⟩
    simp only [Contribution.append, List.append_assoc]

/-- A provider registers its scopes under its own ids. -/
theorem owns_providerRecord (unstable : Bool) (q : Predicate) :
    p.Owns (providerRecord p.id unstable q).refId :=
  ⟨q.displayName, q.implementation, rfl⟩

/-- Leaving ids out of the records of all families leaves what depends on the providers' only
through those of other ids. -/
theorem filter_parts_records (keep : String → Bool)
    (h : contributed.records.filter (fun r => keep r.refId) = contributed'.records.filter
      fun r => keep r.refId) (order : List CatalogFamily) :
    (parts ws contributed order).records.filter (fun r => keep r.refId) =
      (parts ws contributed' order).records.filter fun r => keep r.refId := by
  rw [parts, parts, List.filter_flatMap, List.filter_flatMap]
  refine congrArg (List.flatMap · (completeOrder order)) (funext fun family => ?_)
  cases family with
  | provider => exact h
  | standard | named | module => rfl

/-- What is noted is noted on providers or on named scopes. -/
theorem mem_parts_diagnostics_iff {order : List CatalogFamily} {text : String} :
    text ∈ (parts ws contributed order).diagnostics ↔
      text ∈ contributed.diagnostics ∨ text ∈ (namedFamily ws).diagnostics := by
  rw [mem_parts_diagnostics]
  constructor
  · rintro ⟨family, htext⟩
    -- Presets and modules leave no notes.
    cases family with
    | provider => exact .inl htext
    | named => exact .inr htext
    | standard | module => cases htext
  · rintro (htext | htext)
    · exact ⟨.provider, htext⟩
    · exact ⟨.named, htext⟩

open Classical in
/-- Taking a provider away leaves all records with other ids than that provider's as they are, and
in the same order. All that is noted on the other providers and on named scopes is noted still;
nothing is noted anew, and nothing is missing but what was noted on this provider. -/
theorem build_without_provider (ws : Workspace) (front back : List Provider) (p : Provider)
    (policy : CollisionPolicy) (order : List CatalogFamily)
    (hproviders : ∀ q ∈ front ++ p :: back, q.Completes ws) :
    ∃ full rest scopes own, Snapshot.build ws (front ++ p :: back) policy order = .ok full ∧
      Snapshot.build ws (front ++ back) policy order = .ok rest ∧ p.collect ws = .ok (scopes, own) ∧
      (full.records.filter fun r => ¬ p.Owns r.refId) =
        rest.records.filter (fun r => ¬ p.Owns r.refId) ∧
      (∀ q ∈ front ++ back, ∃ scopes notes, q.collect ws = .ok (scopes, notes) ∧
        notes ⊆ rest.diagnostics) ∧
      (namedFamily ws).diagnostics ⊆ rest.diagnostics ∧
      ∀ text, text ∈ full.diagnostics ↔ text ∈ rest.diagnostics ∨ text ∈ own := by
  have hfront : ∀ q ∈ front, q.Completes ws := fun q hq => hproviders q (List.mem_append_left _ hq)
  have hback : ∀ q ∈ p :: back, q.Completes ws :=
    fun q hq => hproviders q (List.mem_append_right _ hq)
  obtain ⟨first, hfirst⟩ := exists_providerFamily_iff.mpr hfront
  obtain ⟨others, hothers⟩ := exists_providerFamily_iff.mpr hback
  obtain ⟨scopes, own, second, hcollect, hsecond, rfl⟩ := providerFamily_cons_eq_ok.mp hothers
  have hfull := providerFamily_append hfirst hothers
  have hrest := providerFamily_append hfirst hsecond
  refine ⟨_, _, scopes, own, build_eq_parts hfull policy order, build_eq_parts hrest policy order,
    hcollect, ?_, ?_, ?_, ?_⟩
  · have hnone :
        (scopes.map (providerRecord p.id true)).filter (fun r => decide ¬ p.Owns r.refId) = [] := by
      refine List.filter_eq_nil_iff.mpr fun r hr => ?_
      obtain ⟨q, -, rfl⟩ := List.mem_map.mp hr
      simpa using owns_providerRecord true q
    let keep (refId : String) : Bool := decide ¬ p.Owns refId
    rw [Registry.filter_ofList policy keep, Registry.filter_ofList policy keep]
    refine congrArg (Registry.ofList policy) (filter_parts_records keep ?_ order)
    simp only [keep, Contribution.append, List.filter_append, hnone, List.nil_append]
  · intro q hq
    obtain ⟨scopes, notes, hnotes, hsubset⟩ := diagnostics_subset_of_providerFamily hrest hq
    refine ⟨scopes, notes, hnotes, fun text htext => ?_⟩
    exact List.mem_eraseDups.mpr (mem_parts_diagnostics_iff.mpr (.inl (hsubset htext)))
  · exact fun text htext => List.mem_eraseDups.mpr (mem_parts_diagnostics_iff.mpr (.inr htext))
  · intro text
    simp only [List.mem_eraseDups, mem_parts_diagnostics_iff, Contribution.append, List.mem_append]
    tauto

/-- Without the rival of a preset, which gets a note, the others are still noted and all records
keep that are not of the rival's provider id. -/
theorem build_without_rival :
    (∀ q ∈ [flakyProvider] ++ rivalProvider :: [muteProvider], q.Completes vendoredWorkspace) ∧
      ∃ full rest, Snapshot.build vendoredWorkspace [flakyProvider, rivalProvider,
        muteProvider] .lastWins
          [.provider] = .ok full ∧
        Snapshot.build vendoredWorkspace [flakyProvider, muteProvider] .lastWins [.provider] =
          .ok rest ∧
        (∀ r ∈ full.records, ¬ rivalProvider.Owns r.refId → r ∈ rest.records) ∧
        ProviderNote.noMethod.message "plugin.Mute" ∈ rest.diagnostics ∧
        (ProviderNote.ignored .listScopes).message "predefined" ∈ full.diagnostics := by
  have hproviders : ∀ q ∈ [flakyProvider] ++ rivalProvider :: [muteProvider],
      q.Completes vendoredWorkspace := by
    simp [Provider.Completes, Provider.methods, flakyProvider, rivalProvider, muteProvider,
      or_imp, forall_and]
  obtain ⟨full, rest, scopes, own, hfull, hrest, hown, hrecords, hnoted, -, hdiagnostics⟩ :=
    build_without_provider vendoredWorkspace [flakyProvider] [muteProvider] rivalProvider
      .lastWins [.provider] hproviders
  refine ⟨hproviders, full, rest, hfull, hrest, fun r hr hother => ?_, ?_, ?_⟩
  · refine List.mem_of_mem_filter (hrecords ▸ List.mem_filter.mpr ⟨hr, ?_⟩)
    simpa using hother
  · obtain ⟨_, notes, hmute, hsubset⟩ := hnoted muteProvider (by simp)
    cases hmute
    exact hsubset (List.mem_singleton_self _)
  · cases hown
    exact (hdiagnostics _).mpr (.inr (List.mem_singleton_self _))

end Catalog

end ScopeAlgebra
