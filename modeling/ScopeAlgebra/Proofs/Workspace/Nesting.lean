import ScopeAlgebra.Proofs.Workspace.Reachable

/-!
# Nested module scopes

The scopes of modules are nested in two directions. A module that can be reached through
dependencies brings in no file that the flavors with dependencies did not take in already, since
what it reaches is reached from the first module too; and of one module, each flavor lies between
the plain scope and the one with dependencies and libraries (`moduleScope_nested`). Both follow from
one comparison: a scope grows with the names and with the libraries that it takes in
(`within_moduleScope`).
-/

namespace ScopeAlgebra

/-- Every file of the first predicate is one of the second. -/
def Predicate.Within (p q : Predicate) : Prop := ∀ f, p.contains f = true → q.contains f = true

/-- Predicates that lie within each other accept the same files. -/
theorem Predicate.Within.contains_eq {p q : Predicate} (hpq : p.Within q) (hqp : q.Within p)
    (f : File) : p.contains f = q.contains f := by
  rw [Bool.eq_iff_iff]
  exact ⟨hpq f, hqp f⟩

namespace Workspace

variable {ws : Workspace} {a b m : Module} {flavor flavor' : ModuleFlavor}

/-! ## What a scope takes in -/

/-- The flavors with dependencies take in whatever a module that is reached takes in. -/
theorem TakesIn.of_reaches {name : String} (hreach : ws.Reaches a.name b.name)
    (hflavor : flavor.takesDependencies = true) (h : ws.TakesIn b flavor name) :
    ws.TakesIn a flavor name := by
  cases flavor with
  | plain | withLibraries => contradiction
  | withDependencies | withDependenciesAndLibraries => exact hreach.trans h

/-- Every flavor takes in the module itself. -/
theorem takesIn_self (m : Module) (flavor : ModuleFlavor) : ws.TakesIn m flavor m.name := by
  cases flavor with
  | plain | withLibraries => rfl
  | withDependencies | withDependenciesAndLibraries => exact .refl

/-- No flavor takes in a name that the module does not reach. -/
theorem TakesIn.reaches {name : String} (h : ws.TakesIn m flavor name) :
    ws.Reaches m.name name := by
  cases flavor with
  | plain | withLibraries =>
    obtain rfl : name = m.name := h
    exact .refl
  | withDependencies | withDependenciesAndLibraries => exact h

/-! ## Comparing scopes -/

/-- More names and more libraries make more members. -/
theorem isMember_mono {names names' libraries libraries' : List String} {f : File}
    (hnames : names ⊆ names') (hlibraries : libraries ⊆ libraries')
    (h : isMember names libraries f = true) : isMember names' libraries' f = true := by
  refine isMember_iff.mpr ?_
  rcases isMember_iff.mp h with ⟨hroot, library, hlibrary, hmem⟩ | ⟨hroot, name, hname, hmem⟩
  · exact .inl ⟨hroot, library, hlibrary, hlibraries hmem⟩
  · exact .inr ⟨hroot, name, hname, hnames hmem⟩

/-- A scope lies within another one that takes in the same names at least, and libraries if the
first one does. -/
theorem within_moduleScope (ha : a ∈ ws.modules) (hb : b ∈ ws.modules)
    (hnames : ∀ name, ws.TakesIn b flavor' name → ws.TakesIn a flavor name)
    (hlibraries : flavor'.takesLibraries = true → flavor.takesLibraries = true) :
    (ws.moduleScope b flavor').Within (ws.moduleScope a flavor) := by
  intro f
  -- The membership test grows with both of its lists.
  refine isMember_mono (fun name hname => ?_) (fun library hlibrary => ?_)
  · exact (mem_scopeModules ha).mpr (hnames name ((mem_scopeModules hb).mp hname))
  · obtain ⟨htakes, member, hmember, hname, hdeclared⟩ := (mem_scopeLibraries hb).mp hlibrary
    refine (mem_scopeLibraries ha).mpr ⟨?_, member, hmember, hnames member.name hname, hdeclared⟩
    rw [← takesLibraries_iff] at htakes ⊢
    exact hlibraries htakes

/-- A flavor with dependencies takes in, for a module, the scope of every module that it reaches. -/
theorem within_of_reaches (ha : a ∈ ws.modules) (hb : b ∈ ws.modules)
    (hreach : ws.Reaches a.name b.name) (hflavor : flavor.takesDependencies = true) :
    (ws.moduleScope b flavor).Within (ws.moduleScope a flavor) :=
  within_moduleScope ha hb (fun _ => .of_reaches hreach hflavor) id

/-- The plain scope of a module lies within that of every flavor. -/
theorem plain_within (hm : m ∈ ws.modules) (flavor : ModuleFlavor) :
    (ws.moduleScope m .plain).Within (ws.moduleScope m flavor) := by
  refine within_moduleScope hm hm (fun name hname => ?_) (fun htakes => by contradiction)
  obtain rfl : name = m.name := hname
  exact takesIn_self m flavor

/-- The scope of a module in every flavor lies within the one with dependencies and libraries. -/
theorem within_withDependenciesAndLibraries (hm : m ∈ ws.modules) (flavor : ModuleFlavor) :
    (ws.moduleScope m flavor).Within (ws.moduleScope m .withDependenciesAndLibraries) :=
  within_moduleScope hm hm (fun _ => TakesIn.reaches) fun _ => rfl

/-- Along dependencies, however they run, the scopes of modules shrink in both flavors with
dependencies, so that they are the same all around a cycle; and for every module the plain scope
lies within each flavor, and each flavor within the one with dependencies and libraries. -/
theorem moduleScope_nested (ws : Workspace) :
    (∀ a ∈ ws.modules, ∀ b ∈ ws.modules, ws.Reaches a.name b.name →
      (ws.moduleScope b .withDependencies).Within (ws.moduleScope a .withDependencies) ∧
        (ws.moduleScope b .withDependenciesAndLibraries).Within
          (ws.moduleScope a .withDependenciesAndLibraries)) ∧
    (∀ a ∈ ws.modules, ∀ b ∈ ws.modules, ws.Reaches a.name b.name → ws.Reaches b.name a.name → ∀ f,
      (ws.moduleScope a .withDependencies).contains f =
        (ws.moduleScope b .withDependencies).contains f ∧
          (ws.moduleScope a .withDependenciesAndLibraries).contains f =
            (ws.moduleScope b .withDependenciesAndLibraries).contains f) ∧
    ∀ m ∈ ws.modules, ∀ flavor, (ws.moduleScope m .plain).Within (ws.moduleScope m flavor) ∧
      (ws.moduleScope m flavor).Within (ws.moduleScope m .withDependenciesAndLibraries) := by
  refine ⟨fun a ha b hb hreach => ?_, fun a ha b hb hreach hback f => ?_, fun m hm flavor => ?_⟩
  · exact ⟨within_of_reaches ha hb hreach rfl, within_of_reaches ha hb hreach rfl⟩
  · -- Each of the two modules reaches the other one.
    have hsame {flavor : ModuleFlavor} (hflavor : flavor.takesDependencies = true) :
        (ws.moduleScope a flavor).contains f = (ws.moduleScope b flavor).contains f :=
      (within_of_reaches hb ha hback hflavor).contains_eq (within_of_reaches ha hb hreach hflavor) f
    exact ⟨hsame rfl, hsame rfl⟩
  · exact ⟨plain_within hm flavor, within_withDependenciesAndLibraries hm flavor⟩

/-- A module that depends on one of two modules which depend on each other; the far one declares a
library. -/
def chainWorkspace : Workspace where
  modules := [⟨"app", ["core"], []⟩, ⟨"core", ["base"], []⟩, ⟨"base", ["core", "ghost"], ["json"]⟩]
  files := []
  urls_nodup := List.nodup_nil
  names_nodup := by decide

/-- The first module takes in the far module's library, and the two modules of the cycle have the
same scope. -/
theorem moduleScope_chain :
    (⟨"app", ["core"], []⟩ : Module) ∈ chainWorkspace.modules ∧
      (⟨"base", ["core", "ghost"], ["json"]⟩ : Module) ∈ chainWorkspace.modules ∧
      chainWorkspace.Reaches "app" "base" ∧
      (chainWorkspace.moduleScope ⟨"app", ["core"], []⟩ .withDependenciesAndLibraries).contains
        ⟨"u", "p", none, .library, some "json"⟩ = true ∧
      ∀ f, (chainWorkspace.moduleScope ⟨"core", ["base"], []⟩ .withDependencies).contains f =
        (chainWorkspace.moduleScope ⟨"base", ["core", "ghost"], ["json"]⟩
          .withDependencies).contains f := by
  have happ : (⟨"app", ["core"], []⟩ : Module) ∈ chainWorkspace.modules := .head _
  have hcore : (⟨"core", ["base"], []⟩ : Module) ∈ chainWorkspace.modules := .tail _ (.head _)
  have hbase : (⟨"base", ["core", "ghost"], ["json"]⟩ : Module) ∈ chainWorkspace.modules :=
    .tail _ (.tail _ (.head _))
  have hforth : chainWorkspace.Reaches "core" "base" := .single ⟨_, hcore, rfl, .head _⟩
  have hback : chainWorkspace.Reaches "base" "core" := .single ⟨_, hbase, rfl, .head _⟩
  have hfar : chainWorkspace.Reaches "app" "base" := .head ⟨_, happ, rfl, .head _⟩ hforth
  obtain ⟨hnested, hcycle, -⟩ := moduleScope_nested chainWorkspace
  refine ⟨happ, hbase, hfar, (hnested _ happ _ hbase hfar).2 _ ?_,
    fun f => (hcycle _ hcore _ hbase hforth hback f).1⟩
  -- The far module's own scope has the library's files.
  exact isMember_iff.mpr (.inl ⟨rfl, "json", rfl,
    (mem_scopeLibraries hbase).mpr ⟨.inr rfl, _, hbase, .refl, .head _⟩⟩)

end Workspace

end ScopeAlgebra
