import ScopeAlgebra.Proofs.Engine.Recompile

/-!
# Resolving what was compiled

A descriptor keeps the atoms that were evaluated when it was compiled, so resolving it evaluates
them again. What may differ is the default failure mode, since a descriptor does not keep it:
`resolve_compiled` says that it makes no difference under the strict policy, and none where the
default is to put the empty scope in place of failures.
-/

namespace ScopeAlgebra.Engine

variable {e : Engine} {r : Request} {d : Descriptor} {strict? : Option Bool} {catalog : Snapshot}
  {scope : Resolved}

/-- A policy is recovered from whether it is the strict one, since there are only two. -/
theorem ofStrict_eq_strict (policy : Policy) : Policy.ofStrict (policy = .strict) = policy := by
  cases policy <;> rfl

/-- A stored descriptor is evaluated as a request whose failures become empty scopes. -/
theorem resolve_eq_ok {allow : Bool} {policy : Policy} :
    e.resolve d (some allow) (some (policy = .strict)) = .ok scope ↔
      checkVersion d = .ok () ∧ ∃ catalog, e.catalog = .ok catalog ∧
        Program.evaluate ⟨catalog, e.workspace, allow, policy, .emptyScope⟩ d.tokens d.atoms =
          .ok scope := by
  have hcontext (catalog : Snapshot) :
      e.contextFor (requestOf d (some (policy = .strict)) (some allow)) none catalog =
        ⟨catalog, e.workspace, allow, policy, .emptyScope⟩ := by
    have hpolicy : e.policyFor (requestOf d (some (policy = .strict)) (some allow)) none = policy :=
      ofStrict_eq_strict policy
    rw [contextFor, hpolicy]
    rfl
  simp only [resolve, resolveRequest, bind_eq_ok, hcontext]
  exact ⟨fun ⟨(), hversion, h⟩ => ⟨hversion, h⟩, fun ⟨hversion, h⟩ => ⟨(), hversion, h⟩⟩

/-- The default failure mode does not matter under the strict policy, nor when it already is the
empty scope. -/
theorem evaluate_emptyScope {cx : Program.Context} {tokens : List Token} {atoms : List Atom}
    (hmode : cx.policy = .strict ∨ cx.failureMode = .emptyScope)
    (h : Program.evaluate cx tokens atoms = .ok scope) :
    Program.evaluate (cx.under cx.policy .emptyScope) tokens atoms = .ok scope := by
  -- Under the strict policy no failure is forgiven, so the default mode is never read; otherwise
  -- the default already is the mode asked for.
  rcases hmode with hstrict | hempty
  · have hcx : cx = cx.under .strict cx.failureMode := by rw [← hstrict]; rfl
    rw [hcx] at h
    rw [hstrict]
    exact (Program.evaluate_strict_iff.mp h).1
  · have hcx : cx.under cx.policy .emptyScope = cx := by rw [← hempty]; rfl
    rwa [hcx]

/-- What was compiled is what is resolved: on the same workspace a descriptor resolves to the scope
that was evaluated when it was compiled, under the same policy and with the same permission, when
the policy is strict or failures become empty scopes by default. The descriptor keeps the ids and
the tokens of the request, so it passes the same checks. -/
theorem resolve_compiled (e : Engine) (r : Request) (strict? : Option Bool) (d : Descriptor)
    (h : e.compile r strict? = .ok d)
    (hmode : e.policyFor r strict? = .strict ∨
      r.failureMode?.getD e.settings.failureMode = .emptyScope) :
    let allow := r.allowInteractive?.getD e.settings.allowInteractive
    (∃ catalog notes scope, e.catalog = .ok catalog ∧
        normalizeAtoms (e.policyFor r strict?) catalog e.workspace allow r.atoms =
          .ok (d.atoms, notes) ∧
        Program.evaluate (e.contextFor r strict? catalog) r.tokens d.atoms = .ok scope ∧
        e.resolve d (some allow) (some (e.policyFor r strict? = .strict)) = .ok scope ∧
        scope.displayName = d.displayName ∧ scope.shape = d.shape ∧
          scope.diagnostics ⊆ d.diagnostics) ∧
      d.atoms.map Atom.id = r.atoms.map Atom.id ∧ d.tokens = r.tokens ∧
      checkDistinct d.atoms = .ok () ∧ Program.check (d.atoms.map Atom.id) d.tokens = .ok () := by
  intro allow
  obtain ⟨catalog, hcatalog, hcompile⟩ := compile_eq_ok.mp h
  obtain ⟨hdistinct, hcheck, atoms, notes, scope, hatoms, hscope, rfl⟩ :=
    compileWith_eq_ok.mp hcompile
  -- Normalization keeps the ids, so what was checked of the request holds of the descriptor.
  have hids : atoms.map Atom.id = r.atoms.map Atom.id := by
    have heach := hatoms
    rw [normalizeAtoms, hdistinct] at heach
    exact ids_eq_of_normalizeEach heach
  let cx := e.contextFor r strict? catalog
  have hagain : Program.evaluate (cx.under cx.policy .emptyScope) r.tokens atoms = .ok scope :=
    evaluate_emptyScope hmode hscope
  refine ⟨⟨catalog, notes, scope, hcatalog, hatoms, hscope, ?_, rfl, rfl, ?_⟩, hids, rfl, ?_, ?_⟩
  · exact resolve_eq_ok.mpr ⟨rfl, catalog, hcatalog, hagain⟩
  · intro note hnote
    simp [mergeDiagnostics, List.mem_eraseDups, hnote]
  · show checkDistinct atoms = .ok ()
    rwa [checkDistinct, hids]
  · show Program.check (atoms.map Atom.id) r.tokens = .ok ()
    rwa [hids]

/-- A request for something that is not there. -/
def goneRequest : Request where
  atoms := [{ id := "a", refId? := some "gone" }]
  tokens := [Token.ofAtom "a"]

/-- Compiled leniently it stands for the empty scope, and that is what the descriptor resolves
to. -/
theorem resolve_gone :
    ∃ d, bareEngine.compile goneRequest (some false) = .ok d ∧
      ∃ scope, bareEngine.resolve d (some false) (some false) = .ok scope ∧
        scope.displayName = d.displayName ∧ scope.shape = d.shape ∧
          scope.diagnostics ⊆ d.diagnostics := by
  obtain ⟨d, hcompile⟩ : ∃ d, bareEngine.compile goneRequest (some false) = .ok d := by
    rw [compile_of_catalog catalog_bareEngine]
    exact ⟨_, rfl⟩
  obtain ⟨⟨_, _, scope, -, -, -, hresolve, hname, hshape, hnotes⟩, -⟩ :=
    resolve_compiled bareEngine goneRequest (some false) d hcompile (.inr rfl)
  exact ⟨d, hcompile, scope, hresolve, hname, hshape, hnotes⟩

end ScopeAlgebra.Engine
