import ScopeAlgebra.Proofs.Catalog.Families

/-!
# Providers that can be read to the end

A collection that breaks off while it is read is the only thing that a provider can do to make the
whole catalog fail. `exists_build_iff` says that a snapshot can be built exactly when no provider
offers one.
-/

namespace ScopeAlgebra

variable {ws : Workspace} {providers : List Provider}

/-- No method of a provider answers with a collection that breaks off while it is read. -/
def Provider.Completes (ws : Workspace) (p : Provider) : Prop :=
  ∀ m ∈ p.methods, ∀ message, m.2 ws ≠ .interrupted message

namespace Provider

/-- A method yields something unless its collection breaks off. -/
theorem exists_yieldOf_iff {method : ProviderMethod} {reply : Reply} :
    (∃ found, yieldOf method reply = .ok found) ↔ ∀ message, reply ≠ .interrupted message := by
  cases reply <;> simp [yieldOf]

/-- The methods of a provider yield one after the other. -/
theorem yieldAll_cons_eq_ok {m : ProviderMethod × (Workspace → Reply)}
    {rest : List (ProviderMethod × (Workspace → Reply))} {found : Yield} :
    yieldAll ws (m :: rest) = .ok found ↔ ∃ first more, yieldOf m.1 (m.2 ws) = .ok first ∧
      yieldAll ws rest = .ok more ∧
        found = ⟨first.scopes ++ more.scopes, first.notes ++ more.notes⟩ := by
  constructor
  · intro h
    obtain ⟨first, hfirst, h⟩ := bind_eq_ok.mp h
    obtain ⟨more, hmore, h⟩ := bind_eq_ok.mp h
    exact ⟨first, more, hfirst, hmore, (Except.ok.inj h).symm⟩
  · rintro ⟨first, more, hfirst, hmore, rfl⟩
    exact bind_eq_ok.mpr ⟨first, hfirst, bind_eq_ok.mpr ⟨more, hmore, rfl⟩⟩

/-- A provider gives the distinct scopes and the notes of its methods, or the note that it has
none. -/
theorem collect_eq_ok {p : Provider} {scopes : List Predicate} {diagnostics : Diagnostics} :
    p.collect ws = .ok (scopes, diagnostics) ↔ ∃ found, yieldAll ws p.methods = .ok found ∧
      scopes = distinctScopes [] found.scopes ∧
      diagnostics = (if p.methods.isEmpty then [.noMethod] else found.notes).map
        (ProviderNote.message p.id) := by
  constructor
  · intro h
    obtain ⟨found, hfound, h⟩ := bind_eq_ok.mp h
    cases h
    exact ⟨found, hfound, rfl, rfl⟩
  · rintro ⟨found, hfound, rfl, rfl⟩
    exact bind_eq_ok.mpr ⟨found, hfound, rfl⟩

/-- The methods of a provider yield something when each of them does. -/
theorem exists_yieldAll_iff {methods : List (ProviderMethod × (Workspace → Reply))} :
    (∃ found, yieldAll ws methods = .ok found) ↔
      ∀ m ∈ methods, ∀ message, m.2 ws ≠ .interrupted message := by
  -- The methods are asked in turn, and one that breaks off ends it all.
  induction methods with
  | nil => simp [yieldAll]
  | cons m rest ih =>
    have hreply : (∃ found, yieldOf m.1 (m.2 ws) = .ok found) ↔
        ∀ message, m.2 ws ≠ .interrupted message :=
      exists_yieldOf_iff
    rw [List.forall_mem_cons, ← ih, ← hreply]
    constructor
    · rintro ⟨found, h⟩
      obtain ⟨first, more, hfirst, hmore, -⟩ := yieldAll_cons_eq_ok.mp h
      exact ⟨⟨first, hfirst⟩, more, hmore⟩
    · rintro ⟨⟨first, hfirst⟩, more, hmore⟩
      exact ⟨_, yieldAll_cons_eq_ok.mpr ⟨first, more, hfirst, hmore, rfl⟩⟩

/-- A provider is collected from exactly when its answers can be read to the end. -/
theorem exists_collect_iff {p : Provider} :
    (∃ found, p.collect ws = .ok found) ↔ p.Completes ws := by
  rw [Completes, ← exists_yieldAll_iff]
  constructor
  · rintro ⟨⟨scopes, diagnostics⟩, h⟩
    obtain ⟨all, hall, -⟩ := collect_eq_ok.mp h
    exact ⟨all, hall⟩
  · rintro ⟨all, hall⟩
    exact ⟨_, collect_eq_ok.mpr ⟨all, hall, rfl, rfl⟩⟩

end Provider

namespace Catalog

/-- The providers are collected from exactly when the answers of each can be read to the end. -/
theorem exists_providerFamily_iff :
    (∃ c, providerFamily ws providers = .ok c) ↔ ∀ p ∈ providers, p.Completes ws := by
  induction providers with
  | nil => simp [providerFamily]
  | cons p rest ih =>
    rw [List.forall_mem_cons, ← ih, ← Provider.exists_collect_iff]
    constructor
    · rintro ⟨c, h⟩
      obtain ⟨scopes, diagnostics, more, hcollect, hmore, -⟩ := providerFamily_cons_eq_ok.mp h
      exact ⟨⟨_, hcollect⟩, more, hmore⟩
    · rintro ⟨⟨⟨scopes, diagnostics⟩, hcollect⟩, more, hmore⟩
      exact ⟨_, providerFamily_cons_eq_ok.mpr ⟨scopes, diagnostics, more, hcollect, hmore, rfl⟩⟩

/-- Families yield something together when each of them does. -/
theorem exists_ofFamilies {families : List CatalogFamily}
    (h : ∀ family ∈ families, ∃ c, ofFamily ws providers family = .ok c) :
    ∃ all, ofFamilies ws providers families = .ok all := by
  induction families with
  | nil => exact ⟨_, rfl⟩
  | cons family rest ih =>
    obtain ⟨⟨first, hfirst⟩, hrest⟩ := List.forall_mem_cons.mp h
    obtain ⟨more, hmore⟩ := ih hrest
    exact ⟨_, ofFamilies_cons_eq_ok.mpr ⟨first, more, hfirst, hmore, rfl⟩⟩

/-- A snapshot can be built exactly when the answers of all providers can be read to the end. -/
theorem exists_build_iff {policy : CollisionPolicy} {order : List CatalogFamily} :
    (∃ catalog, Snapshot.build ws providers policy order = .ok catalog) ↔
      ∀ p ∈ providers, p.Completes ws := by
  rw [← exists_providerFamily_iff]
  constructor
  · rintro ⟨catalog, hbuild⟩
    obtain ⟨all, hall, -⟩ := bind_eq_ok.mp hbuild
    exact ofFamily_of_ofFamilies hall (mem_completeOrder order .provider)
  -- No other family than that of providers can fail.
  · intro hproviders
    have hfamilies (family : CatalogFamily) : ∃ c, ofFamily ws providers family = .ok c := by
      cases family with
      | provider => exact hproviders
      | standard | named | module => exact ⟨_, rfl⟩
    obtain ⟨all, hall⟩ := exists_ofFamilies fun family (_ : family ∈ completeOrder order) =>
      hfamilies family
    exact ⟨_, bind_eq_ok.mpr ⟨all, hall, rfl⟩⟩

end Catalog

end ScopeAlgebra
