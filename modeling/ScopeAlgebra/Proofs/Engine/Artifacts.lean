import ScopeAlgebra.Proofs.Engine.Recompile
import ScopeAlgebra.Proofs.Wire.Artifacts

/-!
# What is stored survives

Whatever is read of the values that are stored is read back from what is written of it
(`artifacts_survive`). A compiled descriptor is not read but made of atoms that the catalog
completed; it survives too, since its atoms keep their ids and its version is the current one.
-/

namespace ScopeAlgebra.Engine

variable {e : Engine} {r : Request} {d : Descriptor} {strict? : Option Bool}

/-- A compiled descriptor has the current version, and its atoms have ids when those of the request
have. -/
theorem made_of_compile (h : e.compile r strict? = .ok d) (hids : ∀ a ∈ r.atoms, a.id ≠ "") :
    d.version = 2 ∧ ∀ a ∈ d.atoms, a.id ≠ "" := by
  obtain ⟨catalog, -, hcompile⟩ := compile_eq_ok.mp h
  obtain ⟨hdistinct, -, atoms, notes, scope, hatoms, -, rfl⟩ := compileWith_eq_ok.mp hcompile
  rw [normalizeAtoms, hdistinct] at hatoms
  refine ⟨rfl, fun a ha => ?_⟩
  have hid : a.id ∈ r.atoms.map Atom.id := by
    rw [← ids_eq_of_normalizeEach hatoms]
    exact List.mem_map_of_mem ha
  obtain ⟨original, hmem, hsame⟩ := List.mem_map.mp hid
  rw [← hsame]
  exact hids original hmem

/-- An atom, token, request or item that is read survives being written, and a descriptor does when
it is read from a text, or compiled from a request whose atoms have ids, as atoms have that are
read. A descriptor that is read from a value may have a version with more digits than a text may
hold; it is still read back from what is written of it. -/
theorem artifacts_survive :
    (∀ json a, Atom.ofJson json = .ok a → Survives Atom.ofJson Atom.toJson a) ∧
    (∀ json t, Token.ofJson json = .ok t → Survives Token.ofJson Token.toJson t) ∧
    (∀ json r, Request.ofJson json = .ok r → Survives Request.ofJson Request.toJson r) ∧
    (∀ json i, Item.ofJson json = .ok i → Survives Item.ofJson Item.toJson i) ∧
    (∀ json d, Descriptor.ofJson json = .ok d → Restored Descriptor.ofJson Descriptor.toJson d) ∧
    (∀ text d, (Json.parseMessage? text).map Descriptor.ofJson = some (.ok d) →
      Survives Descriptor.ofJson Descriptor.toJson d) ∧
    ∀ (e : Engine) r strict? d, (∀ a ∈ r.atoms, a.id ≠ "") → e.compile r strict? = .ok d →
      Survives Descriptor.ofJson Descriptor.toJson d := by
  -- A descriptor carries a number, its version, which survives as a text only when it is short; so
  -- the descriptor is treated once as a value, once as read from a text and once as compiled.
  refine ⟨?_, ?_, ?_, ?_, ?_, ?_, ?_⟩
  · exact fun json a h => .of_fits (Atom.ofJson_toJson (Atom.yields_ofJson json a h)) a.fits_toJson
  · exact fun _ t _ => .of_fits t.ofJson_toJson t.fits_toJson
  · exact fun json r h => .of_fits (Request.ofJson_toJson (Request.yields_ofJson json r h))
      r.fits_toJson
  · exact fun _ i _ => .of_fits i.ofJson_toJson i.fits_toJson
  · exact fun json d h => .of_read_write
      (Descriptor.ofJson_toJson (Descriptor.yields_ofJson json d h))
  · intro text d h
    obtain ⟨json, hparse, hread⟩ := Option.map_eq_some_iff.mp h
    have hshort : Json.IsShort d.version := by
      refine Descriptor.isShort_version hread fun n hn => ?_
      rcases json with _ | _ | _ | _ | _ | _ | _ | fields
      all_goals try contradiction
      exact Json.isShort_of_object hparse hn
    exact .of_fits (Descriptor.ofJson_toJson (Descriptor.yields_ofJson json d hread))
      (Descriptor.fits_toJson hshort)
  · intro e r strict? d hids h
    obtain ⟨hversion, hkept⟩ := made_of_compile h hids
    have hshort : Json.IsShort d.version := by
      rw [hversion]
      rfl
    exact .of_fits (Descriptor.ofJson_toJson hkept) (Descriptor.fits_toJson hshort)

/-- A descriptor whose version is a text, with an older word for pushing an atom and a truth value
in words. -/
def legacyJson : Json := .object [
  ("version", .string " 1.0 "),
  ("atoms", .array [.object [
    ("atom_id", .string "a"), ("kind", .string "directory"), ("directory_url", .string "src"),
    ("directory_recursive", .string "Off")]]),
  ("tokens", .array [.object [("op", .string " Atom "), ("atom_id", .string "a")]])]

/-- That descriptor, as it is read. -/
def legacyDescriptor : Descriptor where
  version := 1
  atoms := [{ id := "a", kind := .directory, directoryUrl? := some "src", recursive := false }]
  tokens := [Token.ofAtom "a"]

/-- It survives once it is read from a text, and so does a descriptor that was compiled. -/
theorem survives_legacy :
    (Json.parseMessage? legacyJson.pretty).map Descriptor.ofJson = some (.ok legacyDescriptor) ∧
      Survives Descriptor.ofJson Descriptor.toJson legacyDescriptor ∧
      (∀ a ∈ (placesRequest ["b", "a"]).atoms, a.id ≠ "") ∧
      bareEngine.compile (placesRequest ["b", "a"]) (some true) =
        .ok (placesDescriptor ["b", "a"]) ∧
      Survives Descriptor.ofJson Descriptor.toJson (placesDescriptor ["b", "a"]) := by
  have hfits : Json.Fits Json.nestingLimit legacyJson := by
    refine .object (by simp) ?_
    simp only [List.forall_mem_cons]
    refine ⟨.string _, .array ?_, .array ?_, by simp⟩
    all_goals exact List.forall_mem_singleton.mpr (.object (by simp) (by simp [Json.Fits.string]))
  have hread : (Json.parseMessage? legacyJson.pretty).map Descriptor.ofJson =
      some (.ok legacyDescriptor) := by
    rw [Json.parseMessage?_of_mem_texts hfits _ (by simp [Json.texts])]
    rfl
  have hids : ∀ a ∈ (placesRequest ["b", "a"]).atoms, a.id ≠ "" := by simp [placesRequest]
  obtain ⟨-, -, -, -, -, htext, hcompile⟩ := artifacts_survive
  exact ⟨hread, htext _ _ hread, hids, compile_placesRequest ["b", "a"],
    hcompile bareEngine _ _ _ hids (compile_placesRequest ["b", "a"])⟩

end ScopeAlgebra.Engine
