import Mathlib.Data.List.Nodup
import Mathlib.Logic.Relation
import ScopeAlgebra.Workspace.Modules

/-!
# Reachable modules

The modules of a workspace and their declared dependencies form a graph, which may have cycles and
edges to names that no module has. A search of it takes pending names off one at a time, in any
order: it always comes to an end (`wellFounded_step`), and then it has seen exactly the names that
can be reached from its start (`Traces.mem_seen_iff`). `visit` is such a search, so a module's scope
takes in what the module reaches and nothing else (`moduleScope_takes_reachable`).
-/

namespace ScopeAlgebra.Workspace

variable {ws : Workspace} {name dependency start : String} {m : Module}

/-! ## The graph of dependencies -/

/-- A module with this name declares the dependency. -/
def DependsOn (ws : Workspace) (name dependency : String) : Prop :=
  ∃ m ∈ ws.modules, m.name = name ∧ dependency ∈ m.dependencies

/-- A name is reached from another one by following any number of declared dependencies. -/
def Reaches (ws : Workspace) : String → String → Prop := Relation.ReflTransGen ws.DependsOn

/-- The names that a name leads to; one that no module has leads nowhere. -/
def leadsTo (ws : Workspace) (name : String) : List String :=
  match ws.findModule? name with
  | some m => m.dependencies
  | none => []

/-- A module is found under its name. -/
theorem findModule?_eq_some : ws.findModule? name = some m ↔ m ∈ ws.modules ∧ m.name = name := by
  have hname {found : Module} (h : ws.findModule? name = some found) : found.name = name := by
    simpa using List.find?_some h
  constructor
  · exact fun h => ⟨List.mem_of_find?_eq_some h, hname h⟩
  · rintro ⟨hm, rfl⟩
    cases hfound : ws.findModule? m.name with
    | none =>
      have hnone := List.find?_eq_none.mp hfound m hm
      simp at hnone
    | some found =>
      rw [List.inj_on_of_nodup_map ws.names_nodup (List.mem_of_find?_eq_some hfound) hm
        (hname hfound)]

/-- A module leads to its declared dependencies. -/
theorem leadsTo_of_module (hm : m ∈ ws.modules) : ws.leadsTo m.name = m.dependencies := by
  rw [leadsTo, findModule?_eq_some.mpr ⟨hm, rfl⟩]

/-- A name depends on exactly those that it leads to. -/
theorem dependsOn_iff : ws.DependsOn name dependency ↔ dependency ∈ ws.leadsTo name := by
  constructor
  · rintro ⟨m, hm, rfl, hdependency⟩
    rwa [leadsTo_of_module hm]
  · intro h
    unfold leadsTo at h
    split at h
    next m hm =>
      obtain ⟨hmem, hname⟩ := findModule?_eq_some.mp hm
      exact ⟨m, hmem, hname, h⟩
    · contradiction

/-! ## Searches -/

/-- A search under way: the names that it has seen, and those that it has still to visit. -/
structure Search where
  seen : List String
  pending : List String

namespace Search

/-- A step takes any one of the pending names off. If it is new it counts as seen, and what it leads
to becomes pending. -/
inductive Step (ws : Workspace) : Search → Search → Prop where
  | known {seen pending rest : List String} {name : String} (hpending : pending.Perm (name :: rest))
    (hseen : name ∈ seen) : Step ws ⟨seen, pending⟩ ⟨seen, rest⟩
  | new {seen pending rest : List String} {name : String} (hpending : pending.Perm (name :: rest))
    (hseen : name ∉ seen) : Step ws ⟨seen, pending⟩ ⟨name :: seen, ws.leadsTo name ++ rest⟩

/-- The search for what a module depends on. -/
def ofModule (m : Module) : Search := ⟨[m.name], m.dependencies⟩

/-- No search goes on for ever: a step sees one more module of the workspace, or leaves one name
less to visit. -/
theorem wellFounded_step (ws : Workspace) :
    WellFounded fun after before => Step ws before after := by
  let measure (s : Search) : Nat × Nat := ((ws.unseen s.seen).length, s.pending.length)
  refine Subrelation.wf ?_ (InvImage.wf measure (Prod.lex Nat.lt_wfRel Nat.lt_wfRel).wf)
  intro after before h
  cases h with
  | known hpending _ =>
    refine Prod.Lex.right _ ?_
    rw [hpending.length_eq]
    exact Nat.lt_succ_self _
  | @new seen _ rest name hpending hseen =>
    -- A new name may be that of no module; then it leads nowhere and only the pending ones get
    -- fewer.
    cases hm : ws.findModule? name with
    | some m => exact Prod.Lex.left _ _ (length_unseen_cons_lt hm hseen)
    | none =>
      have hnowhere : ws.leadsTo name = [] := by rw [leadsTo, hm]
      rcases Nat.lt_or_eq_of_le (length_unseen_cons_le ws name seen) with hlt | heq
      · exact Prod.Lex.left _ _ hlt
      · simp only [InvImage, measure, heq, hnowhere, hpending.length_eq]
        exact Prod.Lex.right _ (Nat.lt_succ_self _)

/-- What holds throughout a search: only names that can be reached are seen or pending, and what a
name that was seen leads to is not lost. -/
structure Traces (ws : Workspace) (start : String) (s : Search) : Prop where
  start_seen : start ∈ s.seen
  seen : ∀ name ∈ s.seen, ws.Reaches start name
  pending : ∀ name ∈ s.pending, ws.Reaches start name
  kept : ∀ name ∈ s.seen, ∀ next ∈ ws.leadsTo name, next ∈ s.seen ∨ next ∈ s.pending

variable {s t : Search}

/-- The search for what a module depends on starts with the invariant. -/
theorem traces_ofModule (hm : m ∈ ws.modules) : Traces ws m.name (ofModule m) where
  start_seen := List.mem_singleton_self _
  seen := List.forall_mem_singleton.mpr .refl
  pending _ hname := .single ⟨m, hm, rfl, hname⟩
  kept := List.forall_mem_singleton.mpr fun next hnext => by
    rw [leadsTo_of_module hm] at hnext
    exact .inr hnext

/-- Every step of a search keeps the invariant. -/
theorem Traces.step (h : Traces ws start s) (hstep : Step ws s t) : Traces ws start t := by
  -- What a seen name leads to was seen or is pending, so a name may go only when it was seen, or
  -- when it is seen now and what it leads to becomes pending.
  cases hstep with
  | @known _ _ rest name hpending hseen =>
    refine ⟨h.start_seen, h.seen,
      fun other hother => h.pending other (hpending.mem_iff.mpr (.tail _ hother)), ?_⟩
    intro other hother next hnext
    rcases h.kept other hother next hnext with hmem | hmem
    · exact .inl hmem
    · rcases List.mem_cons.mp (hpending.mem_iff.mp hmem) with rfl | hmem
      · exact .inl hseen
      · exact .inr hmem
  | @new _ _ rest name hpending _ =>
    have hname : ws.Reaches start name := h.pending name (hpending.mem_iff.mpr (.head _))
    refine ⟨.tail _ h.start_seen, List.forall_mem_cons.mpr ⟨hname, h.seen⟩, ?_, ?_⟩
    · intro other hother
      rcases List.mem_append.mp hother with hother | hother
      · exact hname.tail (dependsOn_iff.mpr hother)
      · exact h.pending other (hpending.mem_iff.mpr (.tail _ hother))
    · intro other hother next hnext
      rcases List.mem_cons.mp hother with rfl | hother
      · exact .inr (List.mem_append_left _ hnext)
      · rcases h.kept other hother next hnext with hmem | hmem
        · exact .inl (.tail _ hmem)
        · rcases List.mem_cons.mp (hpending.mem_iff.mp hmem) with rfl | hmem
          · exact .inl (.head _)
          · exact .inr (List.mem_append_right _ hmem)

/-- A search keeps the invariant all along. -/
theorem Traces.steps (h : Traces ws start s) (hsteps : Relation.ReflTransGen (Step ws) s t) :
    Traces ws start t := by
  induction hsteps with
  | refl => exact h
  | tail _ hstep ih => exact ih.step hstep

/-- A search that is over has seen what can be reached, and nothing else. -/
theorem Traces.mem_seen_iff (h : Traces ws start s) (hdone : s.pending = []) :
    name ∈ s.seen ↔ ws.Reaches start name := by
  refine ⟨h.seen name, fun hreach => ?_⟩
  -- The induction is along the path from the start: the next name on it was seen too, since nothing
  -- is left pending.
  induction hreach with
  | refl => exact h.start_seen
  | tail _ hdepends ih =>
    refine (h.kept _ ih _ (dependsOn_iff.mp hdepends)).resolve_right ?_
    rw [hdone]
    exact List.not_mem_nil

/-- `visit` is a search that takes the first pending name at every step. -/
theorem steps_visit (seen pending : List String) :
    Relation.ReflTransGen (Step ws) ⟨seen, pending⟩ ⟨ws.visit seen pending, []⟩ := by
  fun_induction visit ws seen pending with
  | case1 seen => exact .refl
  | case2 seen name pending hseen ih => exact .head (.known (.refl _) hseen) ih
  | case3 seen name pending hseen hm ih =>
    refine .head (.new (.refl _) hseen) ?_
    rwa [leadsTo, hm]
  | case4 seen name pending hseen m hm ih =>
    refine .head (.new (.refl _) hseen) ?_
    rwa [leadsTo, hm]

end Search

/-! ## Scopes of modules -/

/-- The closure of a module's dependencies is the set of names that the module reaches. -/
theorem mem_dependencyClosure (hm : m ∈ ws.modules) :
    name ∈ ws.dependencyClosure m ↔ ws.Reaches m.name name :=
  ((Search.traces_ofModule hm).steps (Search.steps_visit _ _)).mem_seen_iff rfl

/-- The names whose files a flavor of a module's scope takes in. -/
def TakesIn (ws : Workspace) (m : Module) : ModuleFlavor → String → Prop
  | .plain | .withLibraries => fun name => name = m.name
  | .withDependencies | .withDependenciesAndLibraries => fun name => ws.Reaches m.name name

/-- A scope lists the names that its flavor takes in. -/
theorem mem_scopeModules (hm : m ∈ ws.modules) {flavor : ModuleFlavor} :
    name ∈ ws.scopeModules m flavor ↔ ws.TakesIn m flavor name := by
  unfold scopeModules
  cases flavor with
  | plain | withLibraries => exact List.mem_singleton
  | withDependencies | withDependenciesAndLibraries => exact mem_dependencyClosure hm

/-- The flavors with libraries are two. -/
theorem takesLibraries_iff {flavor : ModuleFlavor} :
    flavor.takesLibraries = true ↔
      flavor = .withLibraries ∨ flavor = .withDependenciesAndLibraries := by
  cases flavor <;> simp [ModuleFlavor.takesLibraries]

/-- Libraries come from the modules that a flavor takes in, and from flavors with libraries only. -/
theorem mem_scopeLibraries (hm : m ∈ ws.modules) {flavor : ModuleFlavor} {library : String} :
    library ∈ ws.scopeLibraries m flavor ↔
      (flavor = .withLibraries ∨ flavor = .withDependenciesAndLibraries) ∧
        ∃ member ∈ ws.modules, ws.TakesIn m flavor member.name ∧ library ∈ member.libraries := by
  rw [← takesLibraries_iff, scopeLibraries]
  split
  next htakes =>
    rw [List.mem_flatMap, and_iff_right htakes]
    constructor
    · rintro ⟨name, hname, hlibrary⟩
      split at hlibrary
      next member hmember =>
        obtain ⟨hmem, rfl⟩ := findModule?_eq_some.mp hmember
        exact ⟨member, hmem, (mem_scopeModules hm).mp hname, hlibrary⟩
      · contradiction
    · rintro ⟨member, hmem, htakes, hlibrary⟩
      refine ⟨member.name, (mem_scopeModules hm).mpr htakes, ?_⟩
      rwa [findModule?_eq_some.mpr ⟨hmem, rfl⟩]
  next htakes => simp [htakes]

/-- A file belongs to a library that was listed, or to a module that was listed and to the
project. -/
theorem isMember_iff {moduleNames libraries : List String} {f : File} :
    isMember moduleNames libraries f = true ↔
      (f.root = .library ∧ ∃ library, f.library? = some library ∧ library ∈ libraries) ∨
        ((f.root = .source ∨ f.root = .test) ∧
          ∃ name, f.module? = some name ∧ name ∈ moduleNames) := by
  unfold isMember
  cases hroot : f.root <;> cases hlibrary : f.library? <;> cases hmodule : f.module? <;>
    simp [RootKind.isProject]

/-- For a module of a workspace, however its dependencies run: searches for its dependencies come to
an end and have then seen exactly the names that it reaches, the closure holds these names, and its
scope in a flavor takes in the library files of the libraries that the flavor's modules declare,
when the flavor is one with libraries, and the project's files of the flavor's modules. -/
theorem moduleScope_takes_reachable (ws : Workspace) (m : Module) (hm : m ∈ ws.modules) :
    WellFounded (fun after before => Search.Step ws before after) ∧
      (∀ s, Relation.ReflTransGen (Search.Step ws) (Search.ofModule m) s → s.pending = [] →
        ∀ name, name ∈ s.seen ↔ ws.Reaches m.name name) ∧
      (∀ name, name ∈ ws.dependencyClosure m ↔ ws.Reaches m.name name) ∧
      ∀ (flavor : ModuleFlavor) (f : File), (ws.moduleScope m flavor).contains f = true ↔
        (f.root = .library ∧ (flavor = .withLibraries ∨ flavor = .withDependenciesAndLibraries) ∧
          ∃ library, f.library? = some library ∧
            ∃ member ∈ ws.modules, ws.TakesIn m flavor member.name ∧ library ∈ member.libraries) ∨
        ((f.root = .source ∨ f.root = .test) ∧
          ∃ name, f.module? = some name ∧ ws.TakesIn m flavor name) := by
  refine ⟨Search.wellFounded_step ws, ?_, fun name => mem_dependencyClosure hm, fun flavor f => ?_⟩
  · intro s hsteps hdone name
    exact ((Search.traces_ofModule hm).steps hsteps).mem_seen_iff hdone
  · rw [moduleScope, Predicate.contains, isMember_iff]
    simp only [mem_scopeModules hm, mem_scopeLibraries hm]
    refine or_congr_left (and_congr_right fun _ => ⟨?_, ?_⟩)
    · rintro ⟨library, hlibrary, hflavor, hdeclared⟩
      exact ⟨hflavor, library, hlibrary, hdeclared⟩
    · rintro ⟨hflavor, library, hlibrary, hdeclared⟩
      exact ⟨library, hlibrary, hflavor, hdeclared⟩

/-- Two modules that depend on each other, one of them on itself and twice on a name that no module
has. -/
def ringWorkspace : Workspace where
  modules := [⟨"app", ["core", "ghost"], []⟩, ⟨"core", ["app", "core", "ghost"], ["json"]⟩]
  files := []
  urls_nodup := List.nodup_nil
  names_nodup := by decide

/-- On a ring of modules the scope with dependencies and libraries holds a library file of the other
module. -/
theorem moduleScope_ring :
    (⟨"app", ["core", "ghost"], []⟩ : Module) ∈ ringWorkspace.modules ∧
      (ringWorkspace.moduleScope ⟨"app", ["core", "ghost"], []⟩
        .withDependenciesAndLibraries).contains ⟨"u", "p", none, .library, some "json"⟩ = true := by
  have hm : (⟨"app", ["core", "ghost"], []⟩ : Module) ∈ ringWorkspace.modules := .head _
  refine ⟨hm, ((moduleScope_takes_reachable ringWorkspace _ hm).2.2.2 _ _).mpr
    (.inl ⟨rfl, .inr rfl, "json", rfl, ?_⟩)⟩
  exact ⟨⟨"core", ["app", "core", "ghost"], ["json"]⟩, .tail _ (.head _),
    .single ⟨_, .head _, rfl, .head _⟩, .head _⟩

end ScopeAlgebra.Workspace
