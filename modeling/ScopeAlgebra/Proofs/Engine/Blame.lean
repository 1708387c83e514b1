import ScopeAlgebra.Proofs.Catalog.Providers
import ScopeAlgebra.Proofs.Engine.Recompile
import ScopeAlgebra.Proofs.Program.Blame
import ScopeAlgebra.Proofs.Wire.Artifacts

/-!
# Whom an error blames

Compiling and resolving fail for the program, for a negation or for an atom, and for nothing else
once the catalog is there. An error that is about an atom names it, and the atom does not need the
others to fail: a program that pushes nothing else fails with the same error (`errors_attributed`).
-/

namespace ScopeAlgebra

/-- The request for a single atom of another one, with the same settings. -/
def Request.alone (r : Request) (a : Atom) : Request :=
  { r with atoms := [a], tokens := [Token.ofAtom a.id] }

/-- The descriptor of a single atom of another one. -/
def Descriptor.alone (d : Descriptor) (a : Atom) : Descriptor :=
  { d with atoms := [a], tokens := [Token.ofAtom a.id] }

/-- An error about a program or a negation, or about an atom. The latter names the atom, for which
alone the call fails in the same way, unless it says that nothing is left of all atoms. -/
structure EngineError.Attributed {α : Type} (err : EngineError) (atoms : List Atom)
    (alone : Atom → Except EngineError α) : Prop where
  family_mem : err.family ∈ [ErrorFamily.structural, .invalidAtom, .resolution, .negation]
  atom : err.family = .invalidAtom ∨ err.family = .resolution →
    err = .emptyExpression ∨ ∃ a ∈ atoms, err.atomId? = some a.id ∧ alone a = .error err

namespace EngineError

variable {α : Type} {err : EngineError} {atoms : List Atom} {alone : Atom →
  Except EngineError α} {a : Atom}

/-- A fault of the program is attributed to no atom. -/
theorem attributed_of_program (h : err.family = .structural ∨ err.family = .negation) :
    err.Attributed atoms alone := by
  refine ⟨?_, fun hatom => ?_⟩
  · rcases h with h | h <;> simp [h]
  · rcases h with h | h <;> simp [h] at hatom

/-- That nothing is left of an expression is attributed to no atom. -/
theorem attributed_emptyExpression : emptyExpression.Attributed atoms alone :=
  ⟨by decide, fun _ => .inl rfl⟩

/-- The error of an atom is attributed to it when the atom fails alone. -/
theorem attributed_of_atom (ha : a ∈ atoms) (hid : err.atomId? = some a.id)
    (hfamily : err.family = .invalidAtom ∨ err.family = .resolution)
    (halone : alone a = .error err) : err.Attributed atoms alone := by
  refine ⟨?_, fun _ => .inr ⟨a, ha, hid, halone⟩⟩
  rcases hfamily with h | h <;> simp [h]

/-- A call may be part of another one that fails whenever it does. -/
theorem Attributed.imp {β : Type} {alone' : Atom → Except EngineError β}
    (h : err.Attributed atoms alone) (himp : ∀ a, alone a = .error err → alone' a = .error err) :
    err.Attributed atoms alone' := by
  refine ⟨h.family_mem, fun hatom => (h.atom hatom).imp_right ?_⟩
  rintro ⟨a, ha, hid, hfails⟩
  exact ⟨a, ha, hid, himp a hfails⟩

/-- What stops a program is attributed to its atoms when those that have no value stand for atoms
that fail alone. -/
theorem attributed_of_fault {cx : Program.Context} {given : List Atom}
    (h : Program.Fault cx (given.map fun a => (a.id, a)) err)
    (halone : ∀ a ∈ given, Program.valueOf cx a = .error err → ∃ b ∈ atoms, b.id = a.id ∧
      alone b = .error err) : err.Attributed atoms alone := by
  cases h with
  | structural h => exact attributed_of_program (.inl h)
  | negation h => exact attributed_of_program (.inr h)
  | @atom id a hlookup hvalue =>
    obtain ⟨before, after, hsplit, -⟩ := List.lookup_eq_some_iff.mp hlookup
    have hmem : (id, a) ∈ given.map fun a => (a.id, a) := by simp [hsplit]
    obtain ⟨a, ha, hsame⟩ := List.mem_map.mp hmem
    cases hsame
    obtain ⟨hid, hfamily⟩ := Program.valueOf_eq_error hvalue
    obtain ⟨b, hb, hbid, hfails⟩ := halone a ha hvalue
    exact attributed_of_atom hb (hbid ▸ hid) hfamily hfails

end EngineError

/-! ## Normal forms -/

section Normal

variable {policy : Policy} {catalog : Snapshot} {ws : Workspace} {allow : Bool} {a : Atom}
  {atoms : List Atom} {err : EngineError}

/-- The error of an atom that has no normal form names the atom. -/
theorem Atom.normalizeUnder_eq_error (h : a.normalizeUnder policy catalog ws allow = .error err) :
    err.atomId? = some a.id ∧ (err.family = .invalidAtom ∨ err.family = .resolution) := by
  rw [normalizeUnder] at h
  -- Malformed under either policy, not resolved under the strict one.
  rcases hnormal : a.normalize catalog ws allow with (⟨kind, payload⟩ | cause)
    | normal <;> rw [hnormal] at h
  · cases h
    exact ⟨rfl, .inl rfl⟩
  · by_cases hpolicy : policy = .strict
    · cases (if_pos hpolicy).symm.trans h
      exact ⟨rfl, .inr rfl⟩
    · cases (if_neg hpolicy).symm.trans h
  · cases h

/-- Atoms have normal forms unless one of them has none. -/
theorem normalizeEach_eq_error (h : normalizeEach policy catalog ws allow atoms = .error err) :
    ∃ a ∈ atoms, a.normalizeUnder policy catalog ws allow = .error err := by
  induction atoms with
  | nil => contradiction
  | cons a rest ih =>
    rcases Noted.andThen_eq_error.mp h with hfirst | ⟨_, _, -, hrest⟩
    · exact ⟨a, List.mem_cons_self, hfirst⟩
    · obtain ⟨b, hb, hfails⟩ := ih (Noted.onValue_eq_error.mp hrest)
      exact ⟨b, List.mem_cons_of_mem a hb, hfails⟩

/-- An atom alone is normalized as it is among others. -/
theorem normalizeEach_singleton :
    normalizeEach policy catalog ws allow [a] =
      (a.normalizeUnder policy catalog ws allow).onValue ([·]) := by
  rw [normalizeEach, normalizeEach]
  rfl

end Normal

namespace Engine

variable {e : Engine} {r : Request} {cx : Program.Context} {a a' : Atom} {err : EngineError}

/-- Compiling fails where one of its parts does, in the order in which they are taken. -/
theorem compileWith_eq_error :
    compileWith cx r = .error err ↔
    checkDistinct r.atoms = .error err ∨ checkDistinct r.atoms = .ok () ∧
      (Program.check (r.atoms.map Atom.id) r.tokens = .error err ∨
        Program.check (r.atoms.map Atom.id) r.tokens = .ok () ∧
          (normalizeEach cx.policy cx.catalog cx.workspace cx.allowInteractive r.atoms = .error
            err ∨ ∃ atoms notes,
              normalizeEach cx.policy cx.catalog cx.workspace cx.allowInteractive r.atoms =
                .ok (atoms, notes) ∧ Program.evaluate cx r.tokens atoms = .error err)) := by
  have hnormal (hdistinct : checkDistinct r.atoms = .ok ()) :
      normalizeAtoms cx.policy cx.catalog cx.workspace cx.allowInteractive r.atoms =
        normalizeEach cx.policy cx.catalog cx.workspace cx.allowInteractive r.atoms := by
    rw [normalizeAtoms, hdistinct]
  -- The four parts are taken in turn: each fails, or leaves the next one to fail.
  constructor
  · intro h
    rcases bind_eq_error.mp h with hdistinct | ⟨⟨⟩, hdistinct, h⟩
    · exact .inl hdistinct
    rcases bind_eq_error.mp h with hcheck | ⟨⟨⟩, hcheck, h⟩
    · exact .inr ⟨hdistinct, .inl hcheck⟩
    rcases bind_eq_error.mp h with hatoms | ⟨⟨atoms, notes⟩, hatoms, h⟩
    · exact .inr ⟨hdistinct, .inr ⟨hcheck, .inl (hnormal hdistinct ▸ hatoms)⟩⟩
    rcases bind_eq_error.mp h with hevaluate | ⟨_, -, h⟩
    · exact .inr ⟨hdistinct, .inr ⟨hcheck,
        .inr ⟨atoms, notes, hnormal hdistinct ▸ hatoms, hevaluate⟩⟩⟩
    · contradiction
  · rintro (hdistinct | ⟨hdistinct, hcheck | ⟨hcheck, hatoms | ⟨atoms, notes, hatoms, hevaluate⟩⟩⟩)
    · exact bind_eq_error.mpr (.inl hdistinct)
    all_goals refine bind_eq_error.mpr (.inr ⟨(), hdistinct, ?_⟩)
    · exact bind_eq_error.mpr (.inl hcheck)
    all_goals refine bind_eq_error.mpr (.inr ⟨(), hcheck, ?_⟩)
    · exact bind_eq_error.mpr (.inl ((hnormal hdistinct).trans hatoms))
    · refine bind_eq_error.mpr (.inr ⟨(atoms, notes), (hnormal hdistinct).trans hatoms, ?_⟩)
      exact bind_eq_error.mpr (.inl hevaluate)

/-! ## Atoms alone -/

/-- An atom without a normal form does not compile alone. -/
theorem compileWith_alone_of_normalizeUnder (hid : a.id ≠ "")
    (h : a.normalizeUnder cx.policy cx.catalog cx.workspace cx.allowInteractive = .error err) :
    compileWith cx (r.alone a) = .error err := by
  refine compileWith_eq_error.mpr (.inr ⟨rfl, .inr ⟨Program.check_ofAtom hid, .inl ?_⟩⟩)
  exact normalizeEach_singleton.trans (Noted.onValue_eq_error.mpr h)

/-- Neither does one of which the normal form has no value. -/
theorem compileWith_alone_of_valueOf {notes : Diagnostics} (hid : a.id ≠ "")
    (hnormal :
      a.normalizeUnder cx.policy cx.catalog cx.workspace cx.allowInteractive = .ok (a', notes))
    (hvalue : Program.valueOf cx a' = .error err) :
    compileWith cx (r.alone a) = .error err := by
  have hatoms : normalizeEach cx.policy cx.catalog cx.workspace cx.allowInteractive [a] =
      .ok ([a'], notes) :=
    normalizeEach_singleton.trans (Noted.onValue_eq_ok.mpr ⟨a', hnormal, rfl⟩)
  have hevaluate : Program.evaluate cx [Token.ofAtom a.id] [a'] = .error err := by
    have hsame : a'.id = a.id := Atom.id_of_normalizeUnder hnormal
    rw [← hsame]
    exact Program.evaluate_ofAtom_eq_error (hsame ▸ hid) hvalue
  exact compileWith_eq_error.mpr
    (.inr ⟨rfl, .inr ⟨Program.check_ofAtom hid, .inr ⟨[a'], notes, hatoms, hevaluate⟩⟩⟩)

/-! ## Requests -/

/-- Evaluating a request fails for its program, a negation or an atom. -/
theorem attributed_evaluate (hids : ∀ a ∈ r.atoms, a.id ≠ "")
    (h : Program.evaluate cx r.tokens r.atoms = .error err) :
    err.Attributed r.atoms fun a => Program.evaluate cx (r.alone a).tokens (r.alone a).atoms := by
  rcases Program.evaluate_eq_error h with rfl | hfault
  · exact EngineError.attributed_emptyExpression
  · refine EngineError.attributed_of_fault hfault fun a ha hvalue => ⟨a, ha, rfl, ?_⟩
    exact Program.evaluate_ofAtom_eq_error (hids a ha) hvalue

/-- Compiling a request fails for its program, a negation or an atom. -/
theorem attributed_compileWith (hids : ∀ a ∈ r.atoms, a.id ≠ "")
    (h : compileWith cx r = .error err) :
    err.Attributed r.atoms fun a => compileWith cx (r.alone a) := by
  -- The checks blame the program; what fails behind them fails for an atom, which fails alone as
  -- well.
  rcases compileWith_eq_error.mp h with
    hdistinct | ⟨-, hcheck | ⟨-, hatoms | ⟨atoms, notes, hatoms, hevaluate⟩⟩⟩
  · exact EngineError.attributed_of_program (.inl (family_of_checkDistinct hdistinct))
  · exact EngineError.attributed_of_program (.inl (Program.check_eq_error hcheck).1)
  · obtain ⟨a, ha, hfails⟩ := normalizeEach_eq_error hatoms
    obtain ⟨hid, hfamily⟩ := Atom.normalizeUnder_eq_error hfails
    exact EngineError.attributed_of_atom ha hid hfamily
      (compileWith_alone_of_normalizeUnder (hids a ha) hfails)
  · rcases Program.evaluate_eq_error hevaluate with rfl | hfault
    · exact EngineError.attributed_emptyExpression
    · refine EngineError.attributed_of_fault hfault fun a' ha' hvalue => ?_
      -- What is evaluated is what some atom of the request was normalized to.
      obtain ⟨a, ha, more, hnormal⟩ := (mem_normalizeEach hatoms).mp ha'
      refine ⟨a, ha, (Atom.id_of_normalizeUnder hnormal).symm, ?_⟩
      exact compileWith_alone_of_valueOf (hids a ha) hnormal hvalue

/-! ## Calls -/

/-- An atom alone is evaluated under the settings of its request. -/
theorem contextFor_alone (strict? : Option Bool) (catalog : Snapshot) :
    e.contextFor (r.alone a) strict? catalog = e.contextFor r strict? catalog := rfl

/-- Where the catalog can be built, a request compiles or fails for its program, a negation or an
atom. -/
theorem attributed_compile {catalog : Snapshot} {strict? : Option Bool}
    (hcatalog : e.catalog = .ok catalog) (hids : ∀ a ∈ r.atoms, a.id ≠ "")
    (h : e.compile r strict? = .error err) :
    err.Attributed r.atoms fun a => e.compile (r.alone a) strict? := by
  simp only [compile_of_catalog hcatalog, contextFor_alone] at h ⊢
  exact attributed_compileWith hids h

/-- Evaluating a request fails for its program, a negation or an atom. -/
theorem attributed_resolveRequest {catalog : Snapshot} {strict? : Option Bool}
    (hcatalog : e.catalog = .ok catalog) (hids : ∀ a ∈ r.atoms, a.id ≠ "")
    (h : e.resolveRequest r strict? = .error err) :
    err.Attributed r.atoms fun a => e.resolveRequest (r.alone a) strict? := by
  have hevaluate (request : Request) : e.resolveRequest request strict? =
      Program.evaluate (e.contextFor request strict? catalog) request.tokens request.atoms := by
    rw [resolveRequest, hcatalog]
    rfl
  simp only [hevaluate, contextFor_alone] at h ⊢
  exact attributed_evaluate hids h

/-- Where all providers can be read to the end, compiling a request or a descriptor and evaluating
either fail only for a program that is malformed, a negation or an atom, or for the version of the
descriptor. An error about an atom, other than that nothing is left of all of them, names an atom of
the program, and the same call fails with the same error for that atom alone. The atoms need ids for
that, as atoms that are read have (`Request.yields_ofJson`). -/
theorem errors_attributed (e : Engine) (hproviders : ∀ p ∈ e.providers, p.Completes e.workspace) :
    (∀ r strict? err, (∀ a ∈ r.atoms, a.id ≠ "") → e.compile r strict? = .error err →
      err.Attributed r.atoms fun a => e.compile (r.alone a) strict?) ∧
    (∀ r strict? err, (∀ a ∈ r.atoms, a.id ≠ "") → e.resolveRequest r strict? = .error err →
      err.Attributed r.atoms fun a => e.resolveRequest (r.alone a) strict?) ∧
    (∀ d allow? strict? err, (∀ a ∈ d.atoms, a.id ≠ "") → e.resolve d allow? strict? = .error err →
      err = .unsupportedVersion d.version ∨
        err.Attributed d.atoms fun a => e.resolve (d.alone a) allow? strict?) ∧
    ∀ d allow? err, (∀ a ∈ d.atoms, a.id ≠ "") → e.recompile d allow? = .error err →
      err = .unsupportedVersion d.version ∨ err.Attributed d.atoms fun a =>
        e.recompile (d.alone a) allow? := by
  obtain ⟨catalog, hbuild⟩ := Catalog.exists_build_iff.mpr hproviders
  have hcatalog : e.catalog = .ok catalog := mapError_eq_ok.mpr hbuild
  have hversion {d : Descriptor} {err : EngineError} (h : checkVersion d = .error err) :
      err = .unsupportedVersion d.version := by
    unfold checkVersion at h
    split at h
    · contradiction
    · exact (Except.error.inj h).symm
  refine ⟨fun r strict? err hids h => attributed_compile hcatalog hids h,
    fun r strict? err hids h => attributed_resolveRequest hcatalog hids h, ?_, ?_⟩
  · intro d allow? strict? err hids h
    rcases bind_eq_error.mp h with h | ⟨⟨⟩, hsupported, h⟩
    · exact .inl (hversion h)
    · refine .inr ((attributed_resolveRequest (r := requestOf d strict? allow?) hcatalog hids h).imp
        fun a hfails => ?_)
      exact bind_eq_error.mpr (.inr ⟨(), hsupported, hfails⟩)
  · intro d allow? err hids h
    rcases bind_eq_error.mp h with h | ⟨⟨⟩, hsupported, h⟩
    · exact .inl (hversion h)
    rcases bind_eq_error.mp h with h | ⟨_, -, h⟩
    · refine .inr ((attributed_compile (r := requestOf d (some true) allow?) hcatalog hids h).imp
        fun a hfails => ?_)
      exact bind_eq_error.mpr (.inr ⟨(), hsupported, bind_eq_error.mpr (.inl hfails)⟩)
    · contradiction

/-- The text of a request, or a descriptor, for what all places and something that is not there have
in common. -/
def lostJson : Json := .object [
  ("atoms", .array [
    .object [("atom_id", .string "a"), ("kind", .string "standard"),
    ("standard_scope_id", .string "AllPlaces")],
    .object [("atom_id", .string "b"), ("scope_ref_id", .string "gone")]]),
  ("tokens", .array [
    .object [("op", .string "push_atom"), ("atom_id", .string "a")],
    .object [("op", .string "push_atom"), ("atom_id", .string "b")],
    .object [("op", .string "and")]])]

/-- What is not there is blamed, and neither the request nor the descriptor of it alone can be
compiled. -/
theorem attributed_lost :
    (∀ p ∈ bareEngine.providers, p.Completes bareEngine.workspace) ∧
      (∃ r, Request.ofJson lostJson = .ok r ∧
        bareEngine.compile r (some true) = .error (.unresolved "b" (.unknownReference "gone")) ∧
        ∃ a ∈ r.atoms, a.id = "b" ∧
          bareEngine.compile (r.alone a) (some true) =
            .error (.unresolved "b" (.unknownReference "gone"))) ∧
      ∃ d, Descriptor.ofJson lostJson = .ok d ∧
        bareEngine.recompile d none = .error (.unresolved "b" (.unknownReference "gone")) ∧
        ∃ a ∈ d.atoms, a.id = "b" ∧
          bareEngine.recompile (d.alone a) none =
            .error (.unresolved "b" (.unknownReference "gone")) := by
  have hproviders : ∀ p ∈ bareEngine.providers, p.Completes bareEngine.workspace := by
    simp [bareEngine]
  obtain ⟨hcompile, -, -, hrecompile⟩ := errors_attributed bareEngine hproviders
  refine ⟨hproviders, ?_, ?_⟩
  · obtain ⟨r, hread, hfails⟩ : ∃ r, Request.ofJson lostJson = .ok r ∧
        bareEngine.compile r (some true) = .error (.unresolved "b" (.unknownReference "gone")) := by
      refine ⟨_, rfl, ?_⟩
      rw [compile_of_catalog catalog_bareEngine]
      rfl
    have hattributed := hcompile r (some true) _ (Request.yields_ofJson _ r hread) hfails
    rcases hattributed.atom (.inr rfl) with hempty | ⟨a, ha, hid, halone⟩
    · contradiction
    · exact ⟨r, hread, hfails, a, ha, (Option.some.inj hid).symm, halone⟩
  · obtain ⟨d, hread, hfails⟩ : ∃ d, Descriptor.ofJson lostJson = .ok d ∧
        bareEngine.recompile d none = .error (.unresolved "b" (.unknownReference "gone")) := by
      refine ⟨_, rfl, bind_eq_error.mpr (.inr ⟨(), rfl, bind_eq_error.mpr (.inl ?_)⟩)⟩
      rw [compile_of_catalog catalog_bareEngine]
      rfl
    rcases hrecompile d none _ (Descriptor.yields_ofJson _ d hread) hfails with
      hversion | hattributed
    · contradiction
    rcases hattributed.atom (.inr rfl) with hempty | ⟨a, ha, hid, halone⟩
    · contradiction
    · exact ⟨d, hread, hfails, a, ha, (Option.some.inj hid).symm, halone⟩

end Engine

end ScopeAlgebra
