import ScopeAlgebra.Proofs.Atoms.Resolve
import ScopeAlgebra.Proofs.Catalog.Consistency
import ScopeAlgebra.Proofs.Engine.Blame
import ScopeAlgebra.Proofs.Program.Shape

/-!
# Shapes where no input is asked for

A record with a local predicate requires input, whichever family it is from
(`Origin.requiresInput_of_snapshot`), and what an atom resolves to without the catalog is global
(`Resolves.global_or_listed`). So where no input is allowed, no leaf of a program is local, and if
the catalog lists nothing mixed all leaves are global: `shape_without_input` draws the conclusions
for the scopes that requests resolve and compile to.
-/

namespace ScopeAlgebra

/-! ## Records and atoms -/

/-- The predicate of a pattern is a filter. -/
theorem Workspace.shape_of_patternScope {text : String} {name? : Option String} {p : Predicate}
    (h : Workspace.patternScope text name? = .ok p) : p.shape = .global := by
  obtain ⟨parsed, -, hfilter⟩ := bind_eq_ok.mp h
  cases hfilter
  rfl

namespace Catalog

variable {ws : Workspace} {providers : List Provider} {r : Record}

/-- A preset is listed with its own predicate. -/
theorem predicate_predefinedRecord (p : Predicate) : (predefinedRecord p).predicate = p := by
  unfold predefinedRecord
  split <;> rfl

/-- An item shows the shape of its predicate, whichever family it is from. -/
theorem Origin.shape_eq (h : Origin ws providers r) : r.item.shape = r.predicate.shape := by
  cases h with
  | predefined hp => exact (consistent_predefinedRecord _).shape_eq
  | contributed hprovider hcollect hp => rfl
  | named hholder hscope htext hp => exact (Workspace.shape_of_patternScope hp).symm
  | module hm flavor => rfl

/-- A local predicate requires input, whichever family it is from. -/
theorem Origin.requiresInput_of_snapshot (h : Origin ws providers r)
    (hlocal : r.predicate.shape = .snapshot) : r.item.requiresInput = true := by
  -- Named scopes and modules have global predicates; the records of the others say that they need
  -- input.
  cases h with
  | predefined hp => exact (consistent_predefinedRecord _).requiresInput_of_snapshot hlocal
  | contributed hprovider hcollect hp =>
    exact (consistent_providerRecord _ true _).requiresInput_of_snapshot hlocal
  | named hholder hscope htext hp =>
    exact absurd hlocal (by simp [namedRecord, Workspace.shape_of_patternScope hp])
  | module hm flavor => contradiction

end Catalog

/-- An atom resolves to a global predicate, or to that of a record that may be used. -/
theorem Atom.Resolves.global_or_listed {catalog : Snapshot} {ws : Workspace} {allow : Bool}
    {a : Atom} {p : Predicate} (h : Atom.Resolves catalog ws allow a p) :
    p.shape = .global ∨ ∃ r ∈ catalog.records, Snapshot.isAllowed allow r = true ∧
      r.predicate = p := by
  -- What is not found in the catalog is made in the workspace, and everything that is made there is
  -- global.
  cases h with
  | reference hby hid hget hallowed => exact .inr ⟨_, (Registry.mem_of_get? hget).1, hallowed, rfl⟩
  | standard hby hkind hid hget hallowed =>
    exact .inr ⟨_, (Registry.mem_of_get? hget).1, hallowed, rfl⟩
  | module => exact .inl rfl
  | named hby hkind hname hscope htext hp => exact .inl (Workspace.shape_of_patternScope hp)
  | pattern hkind htext hp => exact .inl (Workspace.shape_of_patternScope hp)
  | directory hkind hurl hp =>
    refine .inl ?_
    unfold Workspace.directoryScope at hp
    split at hp
    · contradiction
    · split at hp <;> cases hp
      rfl
  | files hkind hurls hp =>
    refine .inl ?_
    unfold Workspace.filesScope at hp
    split at hp <;> cases hp
    rfl

/-! ## Leaves of programs -/

namespace Program

variable {cx : Context} {atoms : AtomMap} {providers : List Provider} {policy : CollisionPolicy}
  {order : List CatalogFamily} {q : Predicate}

/-- A leaf of a program is global, or the predicate of a record that may be used. -/
theorem Leaf.global_or_listed (h : Leaf cx atoms q) :
    q.shape = .global ∨
      ∃ r ∈ cx.catalog.records, Snapshot.isAllowed cx.allowInteractive r = true ∧
        r.predicate = q := by
  obtain rfl | ⟨_, a, -, hresolve⟩ := h
  · exact .inl rfl
  · exact (Atom.resolve_eq_ok.mp hresolve).global_or_listed

/-- Where no input is allowed, no leaf is local. -/
theorem Leaf.shape_ne_snapshot
    (hbuild : Snapshot.build cx.workspace providers policy order = .ok cx.catalog)
    (hallow : cx.allowInteractive = false) (h : Leaf cx atoms q) : q.shape ≠ .snapshot := by
  rcases h.global_or_listed with hglobal | ⟨r, hr, hallowed, rfl⟩
  · simp [hglobal]
  · intro hlocal
    have hinput : r.item.requiresInput = true :=
      (Catalog.origin_of_mem_records hbuild hr).requiresInput_of_snapshot hlocal
    simp [Snapshot.isAllowed, hinput, hallow] at hallowed

/-- Where no input is allowed and the catalog lists nothing mixed, every leaf is global. -/
theorem Leaf.shape_eq_global
    (hbuild : Snapshot.build cx.workspace providers policy order = .ok cx.catalog)
    (hallow : cx.allowInteractive = false)
    (hmixed : ∀ r ∈ cx.catalog.records, r.item.shape ≠ .mixed) (h : Leaf cx atoms q) :
    q.shape = .global := by
  have hlocal : q.shape ≠ .snapshot := h.shape_ne_snapshot hbuild hallow
  rcases h.global_or_listed with hglobal | ⟨r, hr, -, rfl⟩
  · exact hglobal
  · have horigin := (Catalog.origin_of_get? hbuild (Catalog.get?_of_mem_records hbuild hr)).1
    have hother : r.predicate.shape ≠ .mixed := horigin.shape_eq ▸ hmixed r hr
    -- Neither local nor mixed leaves one shape.
    cases hshape : r.predicate.shape <;> simp_all

/-- Where no input is allowed, no program stands for a local scope. -/
theorem shape_ne_snapshot_of_evaluate {tokens : List Token} {given : List Atom} {scope : Resolved}
    (hbuild : Snapshot.build cx.workspace providers policy order = .ok cx.catalog)
    (hallow : cx.allowInteractive = false) (h : evaluate cx tokens given = .ok scope) :
    scope.shape ≠ .snapshot := by
  obtain ⟨⟨leaves, hassembled, hleaves⟩, hshape⟩ := grown_of_evaluate h
  rw [hshape]
  exact hassembled.shape_ne_snapshot fun q hq => (hleaves q hq).shape_ne_snapshot hbuild hallow

/-! ## Normal forms -/

variable {mode : Policy} {catalog : Snapshot} {ws : Workspace} {allow : Bool}

/-- What is noted about an atom without a normal form is not a note on a negation. -/
theorem unhindered_normalizeUnder (a : Atom) :
    Unhindered (a.normalizeUnder mode catalog ws allow) where
  family_ne_negation err herr := by
    rcases (Atom.normalizeUnder_eq_error herr).2 with hfamily | hfamily <;> simp [hfamily]
  not_emptied a' notes hok index shape := by
    rcases Atom.normalizeUnder_eq_ok.mp hok with ⟨-, rfl⟩ | ⟨-, cause, -, -, rfl⟩
    · exact List.not_mem_nil
    · rw [List.mem_singleton, ← String.append_empty (s := cause.message)]
      exact emptiedMessage_ne_message index shape cause ""

/-- Atoms have normal forms, or errors, without a note on a negation. -/
theorem unhindered_normalizeEach (given : List Atom) :
    Unhindered (normalizeEach mode catalog ws allow given) := by
  induction given with
  | nil => exact unhindered_plain []
  | cons a rest ih => exact (unhindered_normalizeUnder a).andThen fun normal _ _ => ih.onValue _

end Program

namespace Engine

variable {cx : Program.Context} {r : Request} {providers : List Provider} {policy : CollisionPolicy}
  {order : List CatalogFamily}

/-- A request over atoms that resolve to global predicates only compiles to a global scope if it
compiles; no negation is refused, or noted as replaced. -/
theorem compileWith_of_global (hglobal : ∀ atoms q, Program.Leaf cx atoms q → q.shape = .global) :
    (∀ d, compileWith cx r = .ok d → d.shape = .global ∧
      ∀ index shape, Program.emptiedMessage index shape ∉ d.diagnostics) ∧
    ∀ err, compileWith cx r = .error err → err.family ≠ .negation := by
  constructor
  · intro d h
    obtain ⟨hdistinct, -, atoms, notes, scope, hatoms, hscope, rfl⟩ := compileWith_eq_ok.mp h
    rw [normalizeAtoms, hdistinct] at hatoms
    obtain ⟨hshape, hsilent⟩ := (Program.evaluate_of_global (hglobal _)).1 scope hscope
    refine ⟨hshape, fun index shape => ?_⟩
    simp only [mergeDiagnostics, List.mem_eraseDups, List.flatten_cons, List.flatten_nil,
      List.append_nil, List.mem_append, not_or]
    exact ⟨(Program.unhindered_normalizeEach _).not_emptied atoms notes hatoms index shape,
      hsilent index shape⟩
  · intro err h
    rcases compileWith_eq_error.mp h with hdistinct
      | ⟨-, hcheck | ⟨-, hatoms | ⟨atoms, notes, -, hevaluate⟩⟩⟩
    · simp [family_of_checkDistinct hdistinct]
    · simp [(Program.check_eq_error hcheck).1]
    · exact (Program.unhindered_normalizeEach _).family_ne_negation err hatoms
    · exact (Program.evaluate_of_global (hglobal _)).2 err hevaluate

/-- A predicate is global when all of its leaves are, local when all of them are, and mixed
otherwise, however it is assembled from them. So where no input is allowed, what a request resolves
or compiles to is never local; and when the catalog lists nothing mixed it is global, and no
negation is refused for the shape of its operand or noted as replaced. -/
theorem shape_without_input :
    (∀ leaves p, Predicate.Assembled leaves p →
      (p.shape = .global ↔ ∀ q ∈ leaves, q.shape = .global) ∧
      (p.shape = .snapshot ↔ ∀ q ∈ leaves, q.shape = .snapshot) ∧
      (p.shape = .mixed ↔ (¬ ∀ q ∈ leaves, q.shape = .global) ∧
        ¬ ∀ q ∈ leaves, q.shape = .snapshot)) ∧
    ∀ (e : Engine) (r : Request) (strict? : Option Bool),
      (∀ p ∈ e.providers, p.Completes e.workspace) →
        r.allowInteractive?.getD e.settings.allowInteractive = false →
      ∃ catalog, e.catalog = .ok catalog ∧
        (∀ scope, e.resolveRequest r strict? = .ok scope → scope.shape ≠ .snapshot) ∧
        (∀ d, e.compile r strict? = .ok d → d.shape ≠ .snapshot) ∧
        ((∀ record ∈ catalog.records, record.item.shape ≠ .mixed) →
          (∀ scope, e.resolveRequest r strict? = .ok scope → scope.shape = .global ∧
            ∀ index shape, Program.emptiedMessage index shape ∉ scope.diagnostics) ∧
          (∀ err, e.resolveRequest r strict? = .error err → err.family ≠ .negation) ∧
          (∀ d, e.compile r strict? = .ok d → d.shape = .global ∧
            ∀ index shape, Program.emptiedMessage index shape ∉ d.diagnostics) ∧
          ∀ err, e.compile r strict? = .error err → err.family ≠ .negation) := by
  refine ⟨fun leaves p h => ?_, fun e r strict? hproviders hallow => ?_⟩
  · exact ⟨h.shape_eq_iff (by decide), h.shape_eq_iff (by decide), h.shape_eq_mixed_iff⟩
  obtain ⟨catalog, hbuild⟩ := Catalog.exists_build_iff.mpr hproviders
  have hcatalog : e.catalog = .ok catalog := mapError_eq_ok.mpr hbuild
  have hresolve : e.resolveRequest r strict? = Program.evaluate (e.contextFor r strict? catalog)
      r.tokens r.atoms := by
    rw [resolveRequest, hcatalog]
    rfl
  have hlocal (atoms : List Atom) (scope : Resolved)
      (h : Program.evaluate (e.contextFor r strict? catalog) r.tokens atoms = .ok scope) :
      scope.shape ≠ .snapshot :=
    Program.shape_ne_snapshot_of_evaluate hbuild hallow h
  rw [hresolve, compile_of_catalog hcatalog]
  refine ⟨catalog, hcatalog, fun scope => ?_, fun d h => ?_, fun hmixed => ?_⟩
  · exact hlocal r.atoms scope
  · obtain ⟨-, -, atoms, notes, scope, -, hscope, rfl⟩ := compileWith_eq_ok.mp h
    exact hlocal atoms scope hscope
  · have hglobal (atoms : Program.AtomMap) (q : Predicate)
        (hq : Program.Leaf (e.contextFor r strict? catalog) atoms q) :
        q.shape = .global := hq.shape_eq_global hbuild hallow hmixed
    obtain ⟨hok, herror⟩ := Program.evaluate_of_global (hglobal (r.atoms.map fun a => (a.id, a)))
    exact ⟨hok, herror, compileWith_of_global hglobal⟩

/-- An engine with a current file, and a provider that lists a local scope. -/
def pinsEngine : Engine where
  workspace := Catalog.coreWorkspace
  providers := [Catalog.pinsProvider]

/-- A request for what is not in the module. -/
def outsideRequest : Request where
  atoms := [{ id := "a", kind := .module, moduleName? := some "core", flavor? := some .plain }]
  tokens := [Token.ofAtom "a", ⟨.not, none⟩]

/-- Its catalog lists nothing mixed, and the complement of a module is global. A union with a local
scope would be mixed. -/
theorem shape_pinsEngine :
    (∀ p ∈ pinsEngine.providers, p.Completes pinsEngine.workspace) ∧
      (∃ catalog scope, pinsEngine.catalog = .ok catalog ∧
        (∀ record ∈ catalog.records, record.item.shape ≠ .mixed) ∧
          pinsEngine.resolveRequest outsideRequest none = .ok scope ∧ scope.shape = .global) ∧
      (Predicate.union (.compl .nothing) (.snapshot "Pins" ["b"])).shape = .mixed := by
  have hproviders : ∀ p ∈ pinsEngine.providers, p.Completes pinsEngine.workspace := by
    simp [Provider.Completes, Provider.methods, pinsEngine, Catalog.pinsProvider]
  obtain ⟨hassembled, hengine⟩ := shape_without_input
  obtain ⟨catalog, hcatalog, -, -, hglobal⟩ := hengine pinsEngine outsideRequest none hproviders rfl
  have hpredefined : ∀ p ∈ pinsEngine.workspace.predefinedScopes, p.shape ≠ .mixed := by decide
  have hmixed : ∀ record ∈ catalog.records, record.item.shape ≠ .mixed := by
    intro record hrecord
    have horigin := Catalog.origin_of_mem_records (mapError_eq_ok.mp hcatalog) hrecord
    rw [horigin.shape_eq]
    cases horigin with
    | predefined hp =>
      rw [Catalog.predicate_predefinedRecord]
      exact hpredefined _ hp
    | contributed hprovider hcollect hp =>
      obtain rfl := List.mem_singleton.mp hprovider
      cases hcollect
      obtain rfl := List.mem_singleton.mp hp
      decide
    | named hholder => contradiction
    | module hm flavor => simp [Catalog.moduleRecord, Workspace.moduleScope, Predicate.shape]
  obtain ⟨scope, hscope⟩ : ∃ scope, pinsEngine.resolveRequest outsideRequest none = .ok scope :=
    ⟨_, bind_eq_ok.mpr ⟨catalog, hcatalog, rfl⟩⟩
  refine ⟨hproviders, ⟨catalog, scope, hcatalog, hmixed, hscope,
    ((hglobal hmixed).1 scope hscope).1⟩, ?_⟩
  have hleaves : Predicate.Assembled [.nothing, .snapshot "Pins" ["b"]]
      (.union (.compl .nothing) (.snapshot "Pins" ["b"])) :=
      .union (.compl (.leaf .nothing) rfl) (.leaf _)
  exact (hassembled _ _ hleaves).2.2.mpr (by simp [Predicate.shape])

end Engine

end ScopeAlgebra
