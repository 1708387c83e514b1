import ScopeAlgebra.Proofs.Atoms.Lenient
import ScopeAlgebra.Proofs.Catalog.Providers
import ScopeAlgebra.Proofs.Engine.Recompile
import ScopeAlgebra.Proofs.Program.Completion

/-!
# Lenient compilation completes

A well-formed request of which no failure aborts compiles to a descriptor, or to nothing because
every atom that its program pushes is skipped (`compile_of_forgives`). No error gets past the
lenient policy on the way: not from an atom that is passed on though it does not resolve, and not
from an operation on what stands for it.
-/

namespace ScopeAlgebra.Engine

/-- A well-formed request under the lenient policy of which no failure aborts, over providers that
can be read to the end. -/
structure Forgives (e : Engine) (r : Request) (strict? : Option Bool) : Prop where
  completes : ∀ p ∈ e.providers, p.Completes e.workspace
  distinct : checkDistinct r.atoms = .ok ()
  check : Program.check (r.atoms.map Atom.id) r.tokens = .ok ()
  lenient : e.policyFor r strict? = .lenient
  default_ne_fail : r.failureMode?.getD e.settings.failureMode ≠ .fail
  atoms_ne_fail : ∀ a ∈ r.atoms, a.onFailure? ≠ some .fail
  /-- Normalization refuses no atom as malformed. -/
  wellFormed : ∀ catalog, e.catalog = .ok catalog → ∀ a ∈ r.atoms, ∀ err,
    a.normalizeUnder .lenient catalog e.workspace
    (r.allowInteractive?.getD e.settings.allowInteractive) = .error err →
      err.family ≠ .invalidAtom

/-- An atom of a request that is left out: what it is passed on as does not resolve, and its
failures are skipped. -/
def LeftOut (cx : Program.Context) (a : Atom) : Prop :=
  FailureMode.effective a.onFailure? cx.failureMode = .skip ∧
    ∃ a' notes cause, a.normalizeUnder cx.policy cx.catalog cx.workspace cx.allowInteractive =
    .ok (a', notes) ∧
      a'.resolve cx.catalog cx.workspace cx.allowInteractive = .error (.unresolved cause)

variable {e : Engine} {r : Request} {strict? : Option Bool} {cx : Program.Context}
  {catalog : Snapshot} {given atoms : List Atom} {notes : Diagnostics}

/-- Compiling fails for the reason for which evaluation does, once the atoms are normalized. -/
theorem compile_of_normalizeAtoms (hcatalog : e.catalog = .ok catalog)
    (hdistinct : checkDistinct r.atoms = .ok ())
    (hcheck : Program.check (r.atoms.map Atom.id) r.tokens = .ok ())
    (hatoms : normalizeAtoms (e.policyFor r strict?) catalog e.workspace
      (r.allowInteractive?.getD e.settings.allowInteractive) r.atoms = .ok (atoms, notes)) :
    e.compile r strict? =
      (Program.evaluate (e.contextFor r strict? catalog) r.tokens atoms).map fun scope =>
        { atoms, tokens := r.tokens, displayName := scope.displayName, shape := scope.shape
          diagnostics := mergeDiagnostics [notes, scope.diagnostics] } := by
  rw [compile_of_catalog hcatalog, compileWith, hdistinct, hcheck]
  show (Except.bind (normalizeAtoms (e.policyFor r strict?) catalog e.workspace
    (r.allowInteractive?.getD e.settings.allowInteractive) r.atoms) _) = _
  rw [hatoms]
  show (Program.evaluate (e.contextFor r strict? catalog) r.tokens atoms >>= _) = _
  cases Program.evaluate (e.contextFor r strict? catalog) r.tokens atoms <;> rfl

/-- What normalization passes on does not abort the program. -/
theorem Forgives.tolerated (h : Forgives e r strict?) (hcatalog : e.catalog = .ok catalog)
    (hatoms : normalizeEach .lenient catalog e.workspace
      (r.allowInteractive?.getD e.settings.allowInteractive) r.atoms = .ok (atoms, notes)) :
    ∀ a ∈ atoms, Program.Tolerated (e.contextFor r strict? catalog) a := by
  intro a' ha'
  obtain ⟨a, ha, more, hnormal⟩ := (mem_normalizeEach hatoms).mp ha'
  refine ⟨Atom.not_malformed_resolve_of_normalizeUnder (mapError_eq_ok.mp hcatalog) hnormal, ?_⟩
  rw [FailureMode.effective, Atom.onFailure?_of_normalizeUnder hnormal]
  show a.onFailure?.getD (r.failureMode?.getD e.settings.failureMode) ≠ .fail
  have hown : a.onFailure? ≠ some .fail := h.atoms_ne_fail a ha
  -- Its own mode comes first, and the default stands in for none.
  cases hmode : a.onFailure? with
  | none => exact h.default_ne_fail
  | some mode => exact fun hfail => hown (hmode.trans (congrArg some hfail))

/-- What is passed on is skipped when the atom that it is passed on for is left out. -/
theorem exists_skipped_iff (hpolicy : cx.policy = .lenient)
    (hatoms : normalizeEach .lenient cx.catalog cx.workspace cx.allowInteractive given = .ok
      (atoms, notes)) {id? : Option String} :
    (∃ a ∈ atoms, id? = some a.id ∧ Program.Skipped cx a) ↔
      ∃ a ∈ given, id? = some a.id ∧ LeftOut cx a := by
  -- What is passed on for an atom keeps its id and its failure mode, so the two are told apart
  -- alike.
  constructor
  · rintro ⟨a', ha', hid, ⟨cause, hcause⟩, hskip⟩
    obtain ⟨a, ha, more, hnormal⟩ := (mem_normalizeEach hatoms).mp ha'
    rw [Atom.onFailure?_of_normalizeUnder hnormal] at hskip
    rw [Atom.id_of_normalizeUnder hnormal] at hid
    exact ⟨a, ha, hid, hskip, a', more, cause, hpolicy ▸ hnormal, hcause⟩
  · rintro ⟨a, ha, hid, hskip, a', more, cause, hnormal, hcause⟩
    rw [hpolicy] at hnormal
    rw [← Atom.onFailure?_of_normalizeUnder hnormal] at hskip
    rw [← Atom.id_of_normalizeUnder hnormal] at hid
    exact ⟨a', (mem_normalizeEach hatoms).mpr ⟨a, ha, more, hnormal⟩, hid, ⟨cause, hcause⟩, hskip⟩

/-- The atoms of such a request are passed on, and compiling evaluates its program over them. -/
theorem Forgives.exists_atoms (h : Forgives e r strict?) (hcatalog : e.catalog = .ok catalog) :
    ∃ atoms notes,
      normalizeEach .lenient catalog e.workspace
        (r.allowInteractive?.getD e.settings.allowInteractive) r.atoms = .ok (atoms, notes) ∧
      checkDistinct atoms = .ok () ∧ Program.check (atoms.map Atom.id) r.tokens = .ok () ∧
      e.compile r strict? =
        (Program.evaluate (e.contextFor r strict? catalog) r.tokens atoms).map fun scope =>
          { atoms, tokens := r.tokens, displayName := scope.displayName, shape := scope.shape
            diagnostics := mergeDiagnostics [notes, scope.diagnostics] } := by
  obtain ⟨atoms, notes, heach⟩ := exists_normalizeEach_lenient (h.wellFormed catalog hcatalog)
  have hids : atoms.map Atom.id = r.atoms.map Atom.id := ids_eq_of_normalizeEach heach
  have hatoms : normalizeAtoms (e.policyFor r strict?) catalog e.workspace
      (r.allowInteractive?.getD e.settings.allowInteractive) r.atoms = .ok (atoms, notes) := by
    rw [h.lenient, normalizeAtoms, h.distinct]
    exact heach
  refine ⟨atoms, notes, heach, ?_, hids ▸ h.check,
    compile_of_normalizeAtoms hcatalog h.distinct h.check hatoms⟩
  rw [checkDistinct, hids]
  exact h.distinct

/-- Such a request compiles to a descriptor, or to nothing because every pushed atom is left out. -/
theorem Forgives.compile_or_empty (h : Forgives e r strict?) (hcatalog : e.catalog = .ok catalog) :
    ((∃ d, e.compile r strict? = .ok d) ∨ e.compile r strict? = .error .emptyExpression) ∧
      (e.compile r strict? = .error .emptyExpression ↔ ∀ t ∈ r.tokens, t.op = .push →
        ∃ a ∈ r.atoms, t.atomId? = some a.id ∧ LeftOut (e.contextFor r strict? catalog) a) := by
  obtain ⟨atoms, notes, hatoms, hdistinct, hcheck, hcompile⟩ := h.exists_atoms hcatalog
  have hforgiving : (e.contextFor r strict? catalog).Forgiving := ⟨h.lenient, h.default_ne_fail⟩
  obtain ⟨hanswer, hempty⟩ :=
    Program.evaluate_of_forgiving hforgiving hdistinct hcheck (h.tolerated hcatalog hatoms)
  have hleftOut (t : Token) : (∃ a ∈ atoms, t.atomId? = some a.id ∧
      Program.Skipped (e.contextFor r strict? catalog) a) ↔
        ∃ a ∈ r.atoms, t.atomId? = some a.id ∧ LeftOut (e.contextFor r strict? catalog) a :=
    exists_skipped_iff h.lenient hatoms
  simp only [hleftOut] at hempty
  rw [← hempty, hcompile]
  -- Evaluation gives a scope or nothing, and compiling says so.
  rcases hanswer with ⟨scope, hscope⟩ | hnothing
  · rw [hscope]
    exact ⟨.inl ⟨_, rfl⟩, by simp [Except.map]⟩
  · rw [hnothing]
    exact ⟨.inr rfl, by simp [Except.map]⟩

/-- A well-formed request of which no failure aborts compiles to a descriptor, unless every pushed
atom is left out: then its expression is empty. Where every failure gives the empty scope there is
always a descriptor. -/
theorem compile_of_forgives (h : Forgives e r strict?) :
    ∃ catalog, e.catalog = .ok catalog ∧
      ((∃ d, e.compile r strict? = .ok d) ∨ e.compile r strict? = .error .emptyExpression) ∧
      (e.compile r strict? = .error .emptyExpression ↔ ∀ t ∈ r.tokens, t.op = .push →
        ∃ a ∈ r.atoms, t.atomId? = some a.id ∧ LeftOut (e.contextFor r strict? catalog) a) ∧
      ((∀ a ∈ r.atoms,
        FailureMode.effective a.onFailure? (r.failureMode?.getD e.settings.failureMode) =
        .emptyScope) → ∃ d, e.compile r strict? = .ok d) := by
  obtain ⟨catalog, hbuild⟩ := Catalog.exists_build_iff.mpr h.completes
  have hcatalog : e.catalog = .ok catalog := mapError_eq_ok.mpr hbuild
  obtain ⟨hresult, hleftOut⟩ := h.compile_or_empty hcatalog
  refine ⟨catalog, hcatalog, hresult, hleftOut, fun hall => hresult.resolve_right fun hempty => ?_⟩
  -- Something is pushed, and it would be left out.
  obtain ⟨t, ht, hpush⟩ := Program.exists_push_of_check h.check
  obtain ⟨a, ha, -, hskip, -⟩ := hleftOut.mp hempty t ht hpush
  have hkept : FailureMode.effective a.onFailure? (r.failureMode?.getD e.settings.failureMode) =
      .skip := hskip
  rw [hall a ha] at hkept
  contradiction

/-- A request for something that is not there, with its failure mode. -/
def absentRequest (mode : FailureMode) : Request where
  atoms := [{ id := "a", refId? := some "absent", onFailure? := some mode }]
  tokens := [Token.ofAtom "a"]

/-- No failure aborts that request, under any failure mode but the one that aborts. -/
theorem forgives_absentRequest {mode : FailureMode} (hmode : mode ≠ .fail) :
    Forgives bareEngine (absentRequest mode) (some false) where
  completes _ hp := absurd hp List.not_mem_nil
  distinct := rfl
  check := show Program.check ["a"] [Token.ofAtom "a"] = .ok () by decide
  lenient := rfl
  default_ne_fail := show FailureMode.emptyScope ≠ .fail by decide
  atoms_ne_fail a ha := by
    obtain rfl := List.mem_singleton.mp ha
    simpa using hmode
  wellFormed catalog hcatalog a ha err herr := by
    obtain rfl : bareCatalog = catalog := Except.ok.inj (catalog_bareEngine.symm.trans hcatalog)
    obtain rfl := List.mem_singleton.mp ha
    contradiction

/-- Skipped it leaves nothing of its program; taken as empty it has a descriptor. -/
theorem compile_absent :
    Forgives bareEngine (absentRequest .skip) (some false) ∧
      bareEngine.compile (absentRequest .skip) (some false) = .error .emptyExpression ∧
      Forgives bareEngine (absentRequest .emptyScope) (some false) ∧
      ∃ d, bareEngine.compile (absentRequest .emptyScope) (some false) = .ok d := by
  have hskip : Forgives bareEngine (absentRequest .skip) (some false) :=
    forgives_absentRequest (by decide)
  have hempty : Forgives bareEngine (absentRequest .emptyScope) (some false) :=
    forgives_absentRequest (by decide)
  obtain ⟨catalog, hcatalog, -, hnothing, -⟩ := compile_of_forgives hskip
  obtain ⟨_, -, -, -, hdescriptor⟩ := compile_of_forgives hempty
  obtain rfl : bareCatalog = catalog := Except.ok.inj (catalog_bareEngine.symm.trans hcatalog)
  refine ⟨hskip, hnothing.mpr fun t ht _ => ?_, hempty, hdescriptor fun a ha => ?_⟩
  · obtain rfl := List.mem_singleton.mp ht
    exact ⟨_, List.mem_singleton_self _, rfl, rfl, _, _, _, rfl, rfl⟩
  · obtain rfl := List.mem_singleton.mp ha
    rfl

end ScopeAlgebra.Engine
