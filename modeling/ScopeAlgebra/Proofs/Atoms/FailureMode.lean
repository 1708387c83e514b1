import ScopeAlgebra.Atoms.Resolve
import ScopeAlgebra.Proofs.Atoms.Normal

/-!
# Atoms with other failure modes

The failure mode of an atom says what stands for it when it does not resolve. What the atom resolves
to does not depend on it (`resolve_failing`), and its normal form keeps it (`normalize_failing`).
-/

namespace ScopeAlgebra

namespace Atom

variable {catalog : Snapshot} {ws : Workspace} {allow : Bool} {modes : String → Option FailureMode}

/-- An atom with the failure mode that is chosen for its id. -/
def failing (modes : String → Option FailureMode) (a : Atom) : Atom :=
  { a with onFailure? := modes a.id }

/-- An atom resolves without a look at its failure mode. -/
theorem resolve_failing (a : Atom) :
    (a.failing modes).resolve catalog ws allow = a.resolve catalog ws allow := rfl

/-! ## Normal forms -/

/-- What an atom refers to is looked up without a look at the failure mode. -/
theorem normalizeReference_failing (a : Atom) : (a.failing modes).normalizeReference catalog allow =
    (a.normalizeReference catalog allow).map (failing modes) :=
  bind_eq_map fun _ => bind_eq_map fun _ => rfl

/-- A named scope, of its holder or of the only one that has it, is normalized without a look at the
failure mode. -/
theorem normalizeNamed_failing (a : Atom) :
    (a.failing modes).normalizeNamed ws = (a.normalizeNamed ws).map (failing modes) := by
  refine bind_eq_map fun name => ?_
  have hholder : (a.failing modes).holderId? = a.holderId? := rfl
  rw [hholder]
  cases Text.present? a.holderId? with
  | some holderId => rfl
  | none =>
    simp only
    -- No holder, one, or several: only one gives a normal form.
    rcases ws.holdersOf name with _ | ⟨holder, _ | ⟨second, rest⟩⟩ <;> rfl

/-- A pattern is brought into its canonical form without a look at the failure mode. -/
theorem normalizePattern_failing (a : Atom) :
    (a.failing modes).normalizePattern = a.normalizePattern.map (failing modes) := by
  refine bind_eq_map fun text => ?_
  cases Pattern.canonical text <;> rfl

/-- The name and the flavor of a module are normalized without a look at the failure mode. -/
theorem normalizeModule_failing (a : Atom) :
    (a.failing modes).normalizeModule = a.normalizeModule.map (failing modes) := by
  refine bind_eq_map fun name => ?_
  have hflavor : (a.failing modes).flavor? = a.flavor? := rfl
  rw [hflavor]
  cases a.flavor? <;> rfl

/-- The urls of a set of files are sorted without a look at the failure mode. -/
theorem normalizeFiles_failing (a : Atom) :
    (a.failing modes).normalizeFiles = a.normalizeFiles.map (failing modes) := by
  have hurls : (a.failing modes).fileUrls = a.fileUrls := rfl
  rw [normalizeFiles, normalizeFiles, hurls]
  cases canonicalUrls a.fileUrls <;> rfl

/-- The payload of an atom of any kind is normalized without a look at the failure mode. -/
theorem normalizePayload_failing (a : Atom) :
    (a.failing modes).normalizePayload ws = (a.normalizePayload ws).map (failing modes) := by
  have hkind : (a.failing modes).kind = a.kind := rfl
  rw [normalizePayload, normalizePayload, hkind]
  -- One case for each kind, with the lemma on its own payload.
  cases a.kind with
  | standard | directory => exact bind_eq_map fun _ => rfl
  | module => exact a.normalizeModule_failing
  | namedPattern => exact a.normalizeNamed_failing
  | adhocPattern => exact a.normalizePattern_failing
  | fileSet => exact a.normalizeFiles_failing
  | catalogRef | provider => rfl

/-- An atom is normalized without a look at its failure mode, which stays. -/
theorem normalize_failing (a : Atom) :
    (a.failing modes).normalize catalog ws allow =
      (a.normalize catalog ws allow).map (failing modes) := by
  have hby : catalog.resolvesByReference (a.failing modes) = catalog.resolvesByReference a := rfl
  rw [normalize, normalize, hby]
  split
  · exact a.normalizeReference_failing
  · exact a.normalizePayload_failing

end Atom

/-! ## Lists of atoms -/

variable {catalog : Snapshot} {ws : Workspace} {allow : Bool} {modes : String → Option FailureMode}

/-- Other failure modes leave the ids of atoms as they are. -/
@[simp] theorem ids_failing (atoms : List Atom) :
    (atoms.map (Atom.failing modes)).map Atom.id = atoms.map Atom.id :=
  List.map_map

/-- Atoms are normalized strictly without a look at their failure modes. -/
theorem normalizeEach_strict_failing (atoms : List Atom) :
    normalizeEach .strict catalog ws allow (atoms.map (Atom.failing modes)) =
      (normalizeEach .strict catalog ws allow atoms).onValue (List.map (Atom.failing modes)) := by
  -- The modes belong to the ids and the ids stay, so the induction is on the atoms alone.
  induction atoms with
  | nil => rfl
  | cons a rest ih =>
    have hfirst : (a.failing modes).normalizeUnder .strict catalog ws allow =
        (a.normalizeUnder .strict catalog ws allow).onValue (Atom.failing modes) := by
      rw [Atom.normalizeUnder_strict, Atom.normalizeUnder_strict, Atom.normalize_failing]
      cases a.normalize catalog ws allow <;> rfl
    simp only [List.map_cons, normalizeEach, hfirst, ih, Noted.onValue, Noted.andThen_assoc,
      Noted.plain_andThen]

/-- Atoms have distinct ids whatever their failure modes are. -/
theorem checkDistinct_failing (atoms : List Atom) :
    checkDistinct (atoms.map (Atom.failing modes)) = checkDistinct atoms := by
  rw [checkDistinct, checkDistinct, ids_failing]

/-- Atoms whose ids are checked are normalized strictly without a look at their failure modes. -/
theorem normalizeAtoms_strict_failing (atoms : List Atom) :
    normalizeAtoms .strict catalog ws allow (atoms.map (Atom.failing modes)) =
      (normalizeAtoms .strict catalog ws allow atoms).onValue (List.map (Atom.failing modes)) := by
  rw [normalizeAtoms, normalizeAtoms, checkDistinct_failing]
  cases checkDistinct atoms with
  | error e => rfl
  | ok => exact normalizeEach_strict_failing atoms

end ScopeAlgebra
