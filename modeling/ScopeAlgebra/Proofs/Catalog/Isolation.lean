import ScopeAlgebra.Proofs.Catalog.Order

/-!
# Providers that fail

What goes wrong with a provider stays with it. A fault leaves a diagnostic that names the provider
and the method, and the records are those of a snapshot in which faulty methods give nothing
(`build_isolates_failures`). A collection that breaks off while it is read is different: with it
nothing is built at all, and its error is all that is left.
-/

namespace ScopeAlgebra

variable {ws : Workspace} {providers : List Provider} {p : Provider} {method : ProviderMethod}
  {reply : Reply} {methods : List (ProviderMethod × (Workspace → Reply))} {found : Provider.Yield}
  {offered : List Predicate} {diagnostics : Diagnostics}

/-! ## What is wrong with a reply -/

namespace Reply

/-- The scopes that a reply offers, with their identities. -/
def scopes : Reply → List (Nat × Predicate)
  | .offers values => Provider.scopesOf values
  | _ => []

/-- Whether something is wrong with a reply that can be read to the end. -/
def isFaulty : Reply → Bool
  | .failed _ | .notCollection _ => true
  | .offers values => values.any Provider.isOther
  | .nothing | .interrupted _ => false

/-- A reply without what is wrong with it. -/
def purged : Reply → Reply
  | .failed _ | .notCollection _ => .nothing
  | .offers values => .offers (values.filter fun offer => !Provider.isOther offer)
  | reply => reply

end Reply

namespace Provider

/-- A method yields the scopes of its reply. -/
theorem scopes_of_yieldOf (h : yieldOf method reply = .ok found) : found.scopes = reply.scopes := by
  cases reply <;> cases h <;> rfl

/-- Other values are not among the scopes, whether they are taken away before or not. -/
theorem scopesOf_filter (values : List Offer) :
    scopesOf (values.filter fun offer => !isOther offer) = scopesOf values := by
  rw [scopesOf, List.filterMap_filter]
  refine List.filterMap_congr fun offer _ => ?_
  cases offer <;> rfl

/-- Without what is wrong with it a reply yields the same scopes and no note. -/
theorem yieldOf_purged (h : yieldOf method reply = .ok found) :
    yieldOf method reply.purged = .ok ⟨found.scopes, []⟩ := by
  cases reply with
  | offers values =>
    cases h
    simp [Reply.purged, yieldOf, scopesOf_filter]
  | failed | nothing | notCollection =>
    cases h
    rfl
  | interrupted => cases h

/-- A fault is noted, with the provider and the method. -/
theorem exists_note (h : yieldOf method reply = .ok found) (hfaulty : reply.isFaulty = true) :
    ∃ note ∈ found.notes, ∀ providerId, ∃ rest,
      note.message providerId =
        "Provider '" ++ providerId ++ "' method '" ++ method.name ++ "' " ++ rest := by
  -- Each fault has a text of its own behind the provider and the method.
  cases reply with
  | failed message =>
    cases h
    refine ⟨_, List.mem_singleton_self _,
      fun providerId => ⟨"invocation failed: " ++ message ++ ".", ?_⟩⟩
    show "Provider '" ++ providerId ++ "' method '" ++ method.name ++
      ("' " ++ "invocation failed: ") ++ message ++ "." = _
    simp only [String.append_assoc]
  | notCollection typeName =>
    cases h
    refine ⟨_, List.mem_singleton_self _,
      fun providerId => ⟨"returned non-iterable type '" ++ typeName ++ "'.", ?_⟩⟩
    show "Provider '" ++ providerId ++ "' method '" ++ method.name ++
      ("' " ++ "returned non-iterable type '") ++ typeName ++ "'." = _
    simp only [String.append_assoc]
  | offers values =>
    cases h
    have hother : values.any isOther = true := hfaulty
    refine ⟨.ignored method, by simp [hother], fun providerId =>
      ⟨"returned non-predicate elements; ignored invalid entries.", ?_⟩⟩
    show "Provider '" ++ providerId ++ "' method '" ++ method.name ++
      ("' " ++ "returned non-predicate elements; ignored invalid entries.") = _
    rw [← String.append_assoc]
  | nothing | interrupted => cases hfaulty

/-! ## The methods of a provider -/

/-- A provider without what is wrong with its replies. -/
def purged (p : Provider) : Provider :=
  { p with
    generalScopes? := p.generalScopes?.map fun call ws => (call ws).purged
    listScopes? := p.listScopes?.map fun call ws => (call ws).purged }

/-- Whether some method of a provider offers a scope. -/
def contributes (ws : Workspace) (p : Provider) : Bool :=
  p.methods.any fun m => !(m.2 ws).scopes.isEmpty

/-- A provider has its methods also without what is wrong with their replies. -/
theorem methods_purged :
    p.purged.methods = p.methods.map fun m => (m.1, fun ws => (m.2 ws).purged) := by
  simp only [methods, purged]
  cases p.generalScopes? <;> cases p.listScopes? <;> rfl

/-- The methods of a provider yield the scopes of all their replies, in order. -/
theorem scopes_of_yieldAll (h : yieldAll ws methods = .ok found) :
    found.scopes = methods.flatMap fun m => (m.2 ws).scopes := by
  induction methods generalizing found with
  | nil =>
    cases h
    rfl
  | cons m rest ih =>
    obtain ⟨first, more, hfirst, hmore, rfl⟩ := yieldAll_cons_eq_ok.mp h
    rw [List.flatMap_cons, ← ih hmore, ← scopes_of_yieldOf hfirst]

/-- Without what is wrong with them the methods yield the same scopes and no note. -/
theorem yieldAll_purged (h : yieldAll ws methods = .ok found) :
    yieldAll ws (methods.map fun m => (m.1, fun ws => (m.2 ws).purged)) =
      .ok ⟨found.scopes, []⟩ := by
  induction methods generalizing found with
  | nil =>
    cases h
    rfl
  | cons m rest ih =>
    obtain ⟨first, more, hfirst, hmore, rfl⟩ := yieldAll_cons_eq_ok.mp h
    exact yieldAll_cons_eq_ok.mpr ⟨_, _, yieldOf_purged hfirst, ih hmore, rfl⟩

/-- What one method yields is part of what all yield. -/
theorem notes_subset_of_yieldAll (h : yieldAll ws methods = .ok found)
    {m : ProviderMethod × (Workspace → Reply)} (hm : m ∈ methods) :
    ∃ one, yieldOf m.1 (m.2 ws) = .ok one ∧ one.notes ⊆ found.notes := by
  induction methods generalizing found with
  | nil => simp at hm
  | cons m' rest ih =>
    obtain ⟨first, more, hfirst, hmore, rfl⟩ := yieldAll_cons_eq_ok.mp h
    rcases List.mem_cons.mp hm with rfl | hm
    · exact ⟨first, hfirst, List.subset_append_left _ _⟩
    · obtain ⟨one, hone, hsubset⟩ := ih hmore hm
      exact ⟨one, hone, List.subset_append_of_subset_right _ hsubset⟩

/-- Methods yield nothing only when one of them offers a collection that breaks off, and then its
error is left. -/
theorem interrupted_of_yieldAll {message : String} (h : yieldAll ws methods = .error message) :
    ∃ m ∈ methods, m.2 ws = .interrupted message := by
  -- The first collection that breaks off ends it all, so it is that of the head or one of the rest.
  induction methods with
  | nil => cases h
  | cons m rest ih =>
    rcases bind_eq_error.mp h with hfirst | ⟨first, -, h⟩
    · refine ⟨m, List.mem_cons_self, ?_⟩
      cases hreply : m.2 ws <;> rw [hreply] at hfirst <;> cases hfirst
      rfl
    · rcases bind_eq_error.mp h with hmore | ⟨more, -, h⟩
      · obtain ⟨m, hm, hreply⟩ := ih hmore
        exact ⟨m, List.mem_cons_of_mem _ hm, hreply⟩
      · cases h

/-- A provider only fails when the collection of one of its methods breaks off. -/
theorem interrupted_of_collect {message : String} (h : p.collect ws = .error message) :
    ∃ m ∈ p.methods, m.2 ws = .interrupted message := by
  rcases bind_eq_error.mp h with hyield | ⟨_, -, h⟩
  · exact interrupted_of_yieldAll hyield
  · cases h

/-- A provider that offers scopes gives the same ones without a note when what is wrong with it is
taken away. -/
theorem collect_purged (h : p.collect ws = .ok (offered, diagnostics))
    (hcontributes : p.contributes ws = true) : p.purged.collect ws = .ok (offered, []) := by
  obtain ⟨found, hfound, rfl, rfl⟩ := collect_eq_ok.mp h
  -- Only a provider without methods gets a note of its own, and this one has a method that offers
  -- something.
  have hmethods : p.purged.methods.isEmpty = false := by
    obtain ⟨m, hm, -⟩ := List.any_eq_true.mp hcontributes
    rw [methods_purged]
    exact List.isEmpty_eq_false_iff_exists_mem.mpr ⟨_, List.mem_map_of_mem hm⟩
  have hpurged : yieldAll ws p.purged.methods = .ok ⟨found.scopes, []⟩ :=
    methods_purged ▸ yieldAll_purged hfound
  refine collect_eq_ok.mpr ⟨_, hpurged, rfl, ?_⟩
  rw [hmethods]
  rfl

/-- A provider that contributes nothing has no scopes to give. -/
theorem collect_of_not_contributes (h : p.collect ws = .ok (offered, diagnostics))
    (hcontributes : p.contributes ws = false) : offered = [] := by
  obtain ⟨found, hfound, rfl, rfl⟩ := collect_eq_ok.mp h
  have hnone : found.scopes = [] := by
    rw [scopes_of_yieldAll hfound, List.flatMap_eq_nil_iff]
    simpa [contributes] using hcontributes
  rw [hnone]
  rfl

/-- A faulty method leaves a diagnostic with the provider's id and the method's name. -/
theorem exists_diagnostic (h : p.collect ws = .ok (offered, diagnostics))
    {m : ProviderMethod × (Workspace → Reply)} (hm : m ∈ p.methods)
    (hfaulty : (m.2 ws).isFaulty = true) :
    ∃ rest, "Provider '" ++ p.id ++ "' method '" ++ m.1.name ++ "' " ++ rest ∈ diagnostics := by
  obtain ⟨found, hfound, rfl, rfl⟩ := collect_eq_ok.mp h
  obtain ⟨one, hone, hsubset⟩ := notes_subset_of_yieldAll hfound hm
  obtain ⟨note, hnote, hmessage⟩ := exists_note hone hfaulty
  obtain ⟨rest, hrest⟩ := hmessage p.id
  have hmethods : p.methods.isEmpty = false := List.isEmpty_eq_false_iff_exists_mem.mpr ⟨m, hm⟩
  refine ⟨rest, List.mem_map.mpr ⟨note, ?_, hrest⟩⟩
  simpa [hmethods] using hsubset hnote

/-- A provider without methods leaves a diagnostic that says so. -/
theorem mem_diagnostics_of_no_method (h : p.collect ws = .ok (offered, diagnostics))
    (hmethods : p.methods = []) : ProviderNote.noMethod.message p.id ∈ diagnostics := by
  obtain ⟨found, -, -, rfl⟩ := collect_eq_ok.mp h
  simp [hmethods]

end Provider

/-! ## All providers -/

namespace Catalog

variable {contributed : Contribution}

/-- Taking away what is wrong with the providers, and those that contribute nothing, leaves the
records and no note. -/
theorem providerFamily_purged (h : providerFamily ws providers = .ok contributed) :
    providerFamily ws ((providers.filter (·.contributes ws)).map Provider.purged) =
      .ok ⟨contributed.records, []⟩ := by
  -- Provider by provider, since the ones that contribute nothing are left out in between.
  induction providers generalizing contributed with
  | nil =>
    cases h
    rfl
  | cons p rest ih =>
    obtain ⟨offered, diagnostics, more, hcollect, hmore, rfl⟩ := providerFamily_cons_eq_ok.mp h
    cases hcontributes : p.contributes ws with
    | true =>
      rw [List.filter_cons_of_pos hcontributes, List.map_cons]
      exact providerFamily_cons_eq_ok.mpr
        ⟨offered, [], _, Provider.collect_purged hcollect hcontributes, ih hmore, rfl⟩
    | false =>
      -- It is left out with its notes, and it has no scopes to leave.
      rw [List.filter_cons_of_neg (by simp [hcontributes]), ih hmore,
        Provider.collect_of_not_contributes hcollect hcontributes]
      rfl

/-- What is noted about one provider is among the diagnostics. -/
theorem diagnostics_subset_of_providerFamily (h : providerFamily ws providers = .ok contributed)
    (hp : p ∈ providers) :
    ∃ offered diagnostics, p.collect ws = .ok (offered, diagnostics) ∧
      diagnostics ⊆ contributed.diagnostics := by
  induction providers generalizing contributed with
  | nil => simp at hp
  | cons p' rest ih =>
    obtain ⟨offered, diagnostics, more, hcollect, hmore, rfl⟩ := providerFamily_cons_eq_ok.mp h
    rcases List.mem_cons.mp hp with rfl | hp
    · exact ⟨offered, diagnostics, hcollect, List.subset_append_left _ _⟩
    · obtain ⟨offered, diagnostics, hcollect, hsubset⟩ := ih hmore hp
      exact ⟨offered, diagnostics, hcollect, List.subset_append_of_subset_right _ hsubset⟩

/-- The providers only fail together when the collection of some method breaks off. -/
theorem interrupted_of_providerFamily {message : String}
    (h : providerFamily ws providers = .error message) :
    ∃ p ∈ providers, ∃ m ∈ p.methods, m.2 ws = .interrupted message := by
  induction providers with
  | nil => cases h
  | cons p rest ih =>
    rcases bind_eq_error.mp h with hfirst | ⟨first, -, h⟩
    · rcases bind_eq_error.mp hfirst with hcollect | ⟨_, -, h⟩
      · exact ⟨p, List.mem_cons_self, Provider.interrupted_of_collect hcollect⟩
      · cases h
    · rcases bind_eq_error.mp h with hmore | ⟨_, -, h⟩
      · obtain ⟨p, hp, hinterrupted⟩ := ih hmore
        exact ⟨p, List.mem_cons_of_mem _ hp, hinterrupted⟩
      · cases h

/-- The families only fail together when the providers do, since no other family can fail. -/
theorem interrupted_of_ofFamilies {families : List CatalogFamily} {message : String}
    (h : ofFamilies ws providers families = .error message) :
    ∃ p ∈ providers, ∃ m ∈ p.methods, m.2 ws = .interrupted message := by
  induction families with
  | nil => cases h
  | cons family rest ih =>
    rcases bind_eq_error.mp h with hfirst | ⟨_, -, h⟩
    · cases family with
      | provider => exact interrupted_of_providerFamily hfirst
      -- The other families cannot fail.
      | standard | named | module => cases hfirst
    · rcases bind_eq_error.mp h with hmore | ⟨_, -, h⟩
      · exact ih hmore
      · cases h

/-- A snapshot fails only with the error of a collection that breaks off. -/
theorem interrupted_of_build {policy : CollisionPolicy} {order : List CatalogFamily}
    {message : String} (h : Snapshot.build ws providers policy order = .error message) :
    ∃ p ∈ providers, ∃ m ∈ p.methods, m.2 ws = .interrupted message := by
  rcases bind_eq_error.mp h with hall | ⟨_, -, h⟩
  · exact interrupted_of_ofFamilies hall
  · cases h

/-- Without notes on providers, only those on named scopes are left. -/
theorem parts_diagnostics (records : List Record) (order : List CatalogFamily) :
    (parts ws ⟨records, []⟩ order).diagnostics = (namedFamily ws).diagnostics := by
  refine flatMap_eq_of_forall_ne (nodup_completeOrder order) (mem_completeOrder order .named)
    fun family hne => ?_
  cases family with
  | named => exact absurd rfl hne
  | standard | provider | module => rfl

/-- What is noted beside the providers' records does not change the records. -/
theorem parts_records (diagnostics diagnostics' : Diagnostics) (records : List Record)
    (order : List CatalogFamily) :
    (parts ws ⟨records, diagnostics⟩ order).records =
      (parts ws ⟨records, diagnostics'⟩ order).records := by
  refine congrArg (List.flatMap · (completeOrder order)) (funext fun family => ?_)
  cases family <;> rfl

/-- A snapshot can be built unless the collection of some method breaks off while it is read, and
then it fails with the error of such a collection. A snapshot that is built has a diagnostic for
every provider without methods, and one for every method with a faulty reply, which starts with the
names of both. Its records are exactly those that there are, in the same order, when faulty replies
give no more than their scopes and providers that contribute nothing are not there; then nothing but
the named scopes leaves diagnostics. -/
theorem build_isolates_failures (ws : Workspace) (providers : List Provider)
    (policy : CollisionPolicy) (order : List CatalogFamily) :
    ((∃ catalog, Snapshot.build ws providers policy order = .ok catalog) ↔
      ∀ p ∈ providers, p.Completes ws) ∧
        (∀ message, Snapshot.build ws providers policy order = .error message →
          ∃ p ∈ providers, ∃ m ∈ p.methods, m.2 ws = .interrupted message) ∧
      ∀ catalog, Snapshot.build ws providers policy order = .ok catalog →
        (∀ p ∈ providers, p.methods = [] →
          ProviderNote.noMethod.message p.id ∈ catalog.diagnostics) ∧
        (∀ p ∈ providers, ∀ m ∈ p.methods, (m.2 ws).isFaulty = true →
          ∃ rest, "Provider '" ++ p.id ++ "' method '" ++ m.1.name ++ "' " ++
            rest ∈ catalog.diagnostics) ∧
        Snapshot.build ws ((providers.filter (·.contributes ws)).map Provider.purged) policy order =
          .ok ⟨catalog.records, (namedFamily ws).diagnostics.eraseDups⟩ := by
  refine ⟨exists_build_iff, fun message h => interrupted_of_build h, fun catalog hbuild => ?_⟩
  obtain ⟨contributed, h⟩ := exists_providerFamily_iff.mpr (exists_build_iff.mp ⟨catalog, hbuild⟩)
  rw [build_eq_parts h] at hbuild
  cases hbuild
  have hnoted (text : String) (htext : text ∈ contributed.diagnostics) :
      text ∈ (parts ws contributed order).diagnostics.eraseDups :=
    List.mem_eraseDups.mpr (mem_parts_diagnostics.mpr ⟨.provider, htext⟩)
  refine ⟨fun p hp hmethods => ?_, fun p hp m hm hfaulty => ?_, ?_⟩
  · obtain ⟨offered, diagnostics, hcollect, hsubset⟩ := diagnostics_subset_of_providerFamily h hp
    exact hnoted _ (hsubset (Provider.mem_diagnostics_of_no_method hcollect hmethods))
  · obtain ⟨offered, diagnostics, hcollect, hsubset⟩ := diagnostics_subset_of_providerFamily h hp
    obtain ⟨rest, hrest⟩ := Provider.exists_diagnostic hcollect hm hfaulty
    exact ⟨rest, hnoted _ (hsubset hrest)⟩
  · rw [build_eq_parts (providerFamily_purged h), parts_diagnostics,
      parts_records [] contributed.diagnostics]

/-! ## A provider that fails, and one that is interrupted -/

/-- A workspace without files, modules and holders. -/
def emptyWorkspace : Workspace where
  files := []
  modules := []
  urls_nodup := List.nodup_nil
  names_nodup := List.nodup_nil

/-- A provider without methods. -/
def muteProvider : Provider := { implementation := "plugin.Mute" }

/-- A provider of which one method fails and the other gives a scope among other values. -/
def flakyProvider : Provider where
  implementation := "plugin.Flaky"
  generalScopes? := some fun _ => .failed "down"
  listScopes? := some fun _ => .offers [.other, .scope 0 .nothing]

/-- A provider whose collection breaks off after its first scope. -/
def brokenProvider : Provider where
  implementation := "plugin.Broken"
  listScopes? := some fun _ => .interrupted "boom"

/-- Two providers with faults leave what they would leave without them, and are named. -/
theorem build_flaky :
    ∃ catalog,
    Snapshot.build emptyWorkspace [muteProvider, flakyProvider] .firstWins [] = .ok catalog ∧
      ProviderNote.noMethod.message "plugin.Mute" ∈ catalog.diagnostics ∧
      (∃ rest, "Provider 'plugin.Flaky' method 'general_scopes' " ++ rest ∈ catalog.diagnostics) ∧
      (∃ rest, "Provider 'plugin.Flaky' method 'list_scopes' " ++ rest ∈ catalog.diagnostics) ∧
      Snapshot.build emptyWorkspace [flakyProvider.purged] .firstWins [] =
        .ok ⟨catalog.records, []⟩ := by
  obtain ⟨hcompletes, -, hcatalog⟩ :=
    build_isolates_failures emptyWorkspace [muteProvider, flakyProvider] .firstWins []
  obtain ⟨catalog, hbuild⟩ := hcompletes.mpr fun p hp m hm message => by
    obtain rfl | rfl : p = muteProvider ∨ p = flakyProvider := by simpa using hp
    · cases hm
    · rcases List.mem_cons.mp hm with rfl | hm
      · nofun
      · obtain rfl := List.mem_singleton.mp hm
        nofun
  obtain ⟨hmute, hfaulty, hpurged⟩ := hcatalog catalog hbuild
  have hflaky : flakyProvider ∈ [muteProvider, flakyProvider] := by simp
  refine ⟨catalog, hbuild, hmute muteProvider List.mem_cons_self rfl, ?_, ?_, hpurged⟩
  · exact hfaulty flakyProvider hflaky (.generalScopes, fun _ => .failed "down")
      List.mem_cons_self rfl
  · exact hfaulty flakyProvider hflaky (.listScopes, fun _ => .offers [.other, .scope 0 .nothing])
      (List.mem_cons_of_mem _ List.mem_cons_self) rfl

/-- With a collection that breaks off there is no snapshot, not even of the standard scopes. -/
theorem build_interrupted :
    Snapshot.build emptyWorkspace [brokenProvider] .firstWins ({} : Settings).familyOrder =
      .error "boom" :=
  rfl

end Catalog

end ScopeAlgebra
