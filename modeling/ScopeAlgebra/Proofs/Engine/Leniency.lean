import ScopeAlgebra.Engine.Basic
import ScopeAlgebra.Proofs.Atoms.Normal
import ScopeAlgebra.Proofs.Program.Leniency

/-!
# No degradation goes unreported

A request that compiles strictly compiles to the same descriptor under any other policy and failure
mode, and whatever compiles without a diagnostic compiles strictly (`compile_strict_iff_silent`).
Normalization and evaluation are compared apart, and `compileWith_strict_iff` puts them together.
-/

namespace ScopeAlgebra

variable {policy : Policy} {mode mode' : FailureMode} {modes : String → Option FailureMode}

/-- A request with other failure modes, for its atoms and as its default. -/
def Request.failing (modes : String → Option FailureMode) (failureMode? : Option FailureMode)
    (r : Request) : Request :=
  { r with atoms := r.atoms.map (Atom.failing modes), failureMode? }

/-- A descriptor with other failure modes for its atoms. -/
def Descriptor.failing (modes : String → Option FailureMode) (d : Descriptor) : Descriptor :=
  { d with atoms := d.atoms.map (Atom.failing modes) }

/-! ## Normal forms -/

variable {catalog : Snapshot} {ws : Workspace} {allow : Bool}

/-- An atom is normalized strictly exactly when it is normalized under any other policy without a
note. -/
theorem Atom.matches_normalizeUnder (a : Atom) :
    Noted.Matches (a.normalizeUnder .strict catalog ws allow)
      (a.normalizeUnder policy catalog ws allow) := by
  unfold Atom.normalizeUnder
  -- Only an atom that does not resolve is treated differently, and then the other policy leaves a
  -- note.
  rcases a.normalize catalog ws allow with (_ | cause) | normal
  · exact Noted.matches_error ..
  · simp only [if_pos]
    split
    · exact Noted.matches_error ..
    · exact Noted.matches_withNote ..
  · exact Noted.matches_plain normal

/-- Atoms are normalized strictly one by one exactly when they are under any other policy without a
note. -/
theorem matches_normalizeEach (atoms : List Atom) :
    Noted.Matches (normalizeEach .strict catalog ws allow atoms)
      (normalizeEach policy catalog ws allow atoms) := by
  induction atoms with
  | nil => exact Noted.matches_plain []
  | cons a rest ih => exact a.matches_normalizeUnder.andThen fun normal _ => ih.onValue _

/-- Checking the ids of the atoms first makes no difference to that. -/
theorem matches_normalizeAtoms (atoms : List Atom) :
    Noted.Matches (normalizeAtoms .strict catalog ws allow atoms)
      (normalizeAtoms policy catalog ws allow atoms) := by
  unfold normalizeAtoms
  split
  · exact Noted.matches_error ..
  · exact matches_normalizeEach atoms

/-! ## Requests -/

namespace Engine

variable {e : Engine} {r : Request} {d : Descriptor} {cx : Program.Context} {strict? : Option Bool}

/-- What a compiled descriptor is made of. -/
theorem compileWith_eq_ok :
    compileWith cx r = .ok d ↔
      checkDistinct r.atoms = .ok () ∧ Program.check (r.atoms.map Atom.id) r.tokens = .ok () ∧
        ∃ atoms notes scope,
          normalizeAtoms cx.policy cx.catalog cx.workspace cx.allowInteractive r.atoms =
            .ok (atoms, notes) ∧
          Program.evaluate cx r.tokens atoms = .ok scope ∧
          d = { atoms, tokens := r.tokens, displayName := scope.displayName, shape := scope.shape
                diagnostics := mergeDiagnostics [notes, scope.diagnostics] } := by
  simp only [compileWith, bind_eq_ok, Prod.exists]
  constructor
  · rintro ⟨⟨⟩, hdistinct, ⟨⟩, hcheck, atoms, notes, hatoms, scope, hscope, hd⟩
    cases hd
    exact ⟨hdistinct, hcheck, atoms, notes, scope, hatoms, hscope, rfl⟩
  · rintro ⟨hdistinct, hcheck, atoms, notes, scope, hatoms, hscope, rfl⟩
    exact ⟨(), hdistinct, (), hcheck, atoms, notes, hatoms, scope, hscope, rfl⟩

/-- Compiling takes a snapshot of the catalog first. -/
theorem compile_eq_ok :
    e.compile r strict? = .ok d ↔
      ∃ catalog, e.catalog = .ok catalog ∧ compileWith (e.contextFor r strict? catalog) r = .ok d :=
  bind_eq_ok

/-- Compiling is compiling against the catalog of the engine, once there is one. -/
theorem compile_of_catalog {catalog : Snapshot} (h : e.catalog = .ok catalog) :
    e.compile r strict? = compileWith (e.contextFor r strict? catalog) r := by
  rw [compile, h]
  rfl

/-- No diagnostics are merged only from groups without any. -/
theorem mergeDiagnostics_pair_eq_nil {notes more : Diagnostics} :
    mergeDiagnostics [notes, more] = [] ↔ notes = [] ∧ more = [] := by
  simp [mergeDiagnostics, eraseDups_eq_nil_iff]

/-- A request compiles strictly against a snapshot exactly when it compiles under any other policy
without a diagnostic. -/
theorem compileWith_strict_iff :
    compileWith (cx.under .strict mode) r = .ok d ↔
      compileWith (cx.under policy mode') r = .ok d ∧ d.diagnostics = [] := by
  have hatoms : Noted.Matches
      (normalizeAtoms .strict cx.catalog cx.workspace cx.allowInteractive r.atoms)
      (normalizeAtoms policy cx.catalog cx.workspace cx.allowInteractive r.atoms) :=
    matches_normalizeAtoms r.atoms
  simp only [compileWith_eq_ok, Program.Context.under]
  -- Notes come from the atoms or from evaluation, and the descriptor has none exactly when neither
  -- has.
  constructor
  · rintro ⟨hdistinct, hcheck, atoms, notes, scope, hnormal, hscope, rfl⟩
    obtain ⟨hnormal, rfl⟩ := hatoms.eq_ok_iff.mp hnormal
    obtain ⟨hscope, hnotes⟩ := Program.evaluate_strict_iff.mp hscope
    refine ⟨⟨hdistinct, hcheck, atoms, [], scope, hnormal, hscope, rfl⟩, ?_⟩
    exact mergeDiagnostics_pair_eq_nil.mpr ⟨rfl, hnotes⟩
  · rintro ⟨⟨hdistinct, hcheck, atoms, notes, scope, hnormal, hscope, rfl⟩, hnone⟩
    obtain ⟨rfl, hnotes⟩ := mergeDiagnostics_pair_eq_nil.mp hnone
    exact ⟨hdistinct, hcheck, atoms, [], scope, hatoms.eq_ok_iff.mpr ⟨hnormal, rfl⟩,
      Program.evaluate_strict_iff.mpr ⟨hscope, hnotes⟩, rfl⟩

/-- Compiling strictly against a snapshot does not depend on failure modes: the descriptor keeps
those of the atoms. -/
theorem compileWith_strict_failing {failureMode? : Option FailureMode} :
    compileWith (cx.under .strict mode) (r.failing modes failureMode?) =
      (compileWith (cx.under .strict mode') r).map (Descriptor.failing modes) := by
  unfold compileWith
  have hdistinct : checkDistinct (r.failing modes failureMode?).atoms = checkDistinct r.atoms :=
    checkDistinct_failing r.atoms
  have hids : (r.failing modes failureMode?).atoms.map Atom.id = r.atoms.map Atom.id :=
    ids_failing r.atoms
  have hatoms : normalizeAtoms .strict cx.catalog cx.workspace cx.allowInteractive
      (r.failing modes failureMode?).atoms =
        (normalizeAtoms .strict cx.catalog cx.workspace cx.allowInteractive r.atoms).onValue
          (List.map (Atom.failing modes)) :=
    normalizeAtoms_strict_failing r.atoms
  rw [hdistinct, hids]
  refine bind_eq_map fun _ => bind_eq_map fun _ => ?_
  simp only [Program.Context.under, hatoms]
  rcases normalizeAtoms .strict cx.catalog cx.workspace cx.allowInteractive r.atoms with
    e | ⟨atoms, notes⟩
  · rfl
  · have hscope : Program.evaluate (cx.under .strict mode) r.tokens
        (atoms.map (Atom.failing modes)) =
          Program.evaluate (cx.under .strict mode') r.tokens atoms :=
      Program.evaluate_strict_failing atoms
    simp only [Noted.onValue, Noted.andThen, Noted.plain, List.append_nil]
    show
      (Program.evaluate (cx.under .strict mode) r.tokens (atoms.map (Atom.failing modes)) >>= _) =
        Except.map _ (Program.evaluate (cx.under .strict mode') r.tokens atoms >>= _)
    rw [hscope]
    exact bind_eq_map fun _ => rfl

/-- A request compiles strictly exactly when it compiles under any other policy and default failure
mode without a diagnostic. -/
theorem compile_strict_iff {failureMode? : Option FailureMode} :
    e.compile r (some true) = .ok d ↔
      e.compile { r with failureMode? } strict? = .ok d ∧ d.diagnostics = [] := by
  simp only [compile_eq_ok]
  -- Both calls see the same sources, so the contexts differ in policy and failure mode only.
  have hsame (catalog : Snapshot) : compileWith (e.contextFor r (some true) catalog) r = .ok d ↔
      compileWith (e.contextFor { r with failureMode? } strict? catalog)
        { r with failureMode? } = .ok d ∧ d.diagnostics = [] := by
    let cx := e.contextFor r none catalog
    let request : Request := { r with failureMode? }
    show compileWith (cx.under .strict cx.failureMode) r = .ok d ↔
      compileWith (cx.under (e.policyFor request strict?)
        (failureMode?.getD e.settings.failureMode)) r = .ok d ∧ d.diagnostics = []
    exact compileWith_strict_iff
  constructor
  · rintro ⟨catalog, hcatalog, h⟩
    obtain ⟨h, hnone⟩ := (hsame catalog).mp h
    exact ⟨⟨catalog, hcatalog, h⟩, hnone⟩
  · rintro ⟨⟨catalog, hcatalog, h⟩, hnone⟩
    exact ⟨catalog, hcatalog, (hsame catalog).mpr ⟨h, hnone⟩⟩

/-- Strict compilation does not depend on failure modes. -/
theorem compile_strict_failing {failureMode? : Option FailureMode} :
    e.compile (r.failing modes failureMode?) (some true) =
      (e.compile r (some true)).map (Descriptor.failing modes) := by
  refine bind_eq_map fun catalog => ?_
  let cx := e.contextFor r none catalog
  show compileWith (cx.under .strict (failureMode?.getD e.settings.failureMode))
    (r.failing modes failureMode?) =
    (compileWith (cx.under .strict cx.failureMode) r).map (Descriptor.failing modes)
  exact compileWith_strict_failing

/-- A request compiles strictly exactly when it compiles to the same descriptor, without a
diagnostic, under any other policy and default failure mode; and with other failure modes a strict
result differs in nothing but those that its atoms keep. -/
theorem compile_strict_iff_silent (e : Engine) (r : Request) (d : Descriptor)
    (strict? : Option Bool) (failureMode? : Option FailureMode)
    (modes : String → Option FailureMode) :
    (e.compile r (some true) = .ok d ↔ e.compile { r with failureMode? } strict? = .ok d ∧
      d.diagnostics = []) ∧ e.compile (r.failing modes failureMode?) (some true) =
        (e.compile r (some true)).map (Descriptor.failing modes) :=
  ⟨compile_strict_iff, compile_strict_failing⟩

end Engine

end ScopeAlgebra
