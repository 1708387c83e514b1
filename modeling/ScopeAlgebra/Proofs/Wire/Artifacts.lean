import ScopeAlgebra.Proofs.Json.Layout
import ScopeAlgebra.Proofs.Schema.Reader
import ScopeAlgebra.Proofs.Schema.Written
import ScopeAlgebra.Wire.Item
import ScopeAlgebra.Wire.Program

/-!
# Atoms, programs and items as they are stored

What is written of an atom, a token, a request, a descriptor or an item is read back as it was, when
atoms have ids, as all atoms have that are read. It also fits into a message, when the version of a
descriptor does not have too many digits, so that it survives being stored as a text as well
(`Survives.of_fits`).
-/

namespace ScopeAlgebra

open Schema Json

/-! ## What is read of programs -/

/-- An atom that is read has an id. -/
theorem Atom.yields_ofJson : Yields Atom.ofJson fun a => a.id ≠ "" := by
  refine yields_model fun fields => ?_
  -- The id is the first of fourteen fields, the others leave it as it is.
  iterate 13 refine Checked.forall_ap ?_
  intro make hmake
  rw [Checked.ap_eq_ok] at hmake
  obtain ⟨_, id, hmk, hid, rfl⟩ := hmake
  cases hmk
  intros
  exact yields_nonEmptyText.required hid

/-- The atoms that are read from a field have ids, and where it is absent there are none. -/
theorem forall_of_readAtoms {fields : Json.Fields} {atoms : List Atom}
    (h : readAtoms fields = .ok atoms) : ∀ a ∈ atoms, a.id ≠ "" :=
  Yields.optional (Yields.listOf Atom.yields_ofJson) (by simp) h

/-- The atoms of a request that is read have ids. -/
theorem Request.yields_ofJson : Yields Request.ofJson fun r => ∀ a ∈ r.atoms, a.id ≠ "" := by
  refine yields_model fun fields => ?_
  -- The atoms are the first of five fields.
  iterate 4 refine Checked.forall_ap ?_
  intro make hmake
  rw [Checked.ap_eq_ok] at hmake
  obtain ⟨_, atoms, hmk, hatoms, rfl⟩ := hmake
  cases hmk
  intros
  exact forall_of_readAtoms hatoms _ ‹_›

/-- The atoms of a descriptor that is read have ids. -/
theorem Descriptor.yields_ofJson : Yields Descriptor.ofJson fun d => ∀ a ∈ d.atoms, a.id ≠ "" := by
  refine yields_model fun fields => ?_
  -- Behind the atoms, the second of six fields, four more are read.
  iterate 4 refine Checked.forall_ap ?_
  intro make hmake
  rw [Checked.ap_eq_ok] at hmake
  obtain ⟨_, atoms, hversion, hatoms, rfl⟩ := hmake
  rw [Checked.ap_eq_ok] at hversion
  obtain ⟨_, version, hmk, -, rfl⟩ := hversion
  cases hmk
  intros
  exact forall_of_readAtoms hatoms _ ‹_›

/-- The version of a descriptor is read from an integer, or it has few digits. -/
theorem Descriptor.isShort_version {json : Json} {d : Descriptor}
    (h : Descriptor.ofJson json = .ok d)
    (hjson : ∀ n, json.get? "version" = some (.int n) → IsShort n) : IsShort d.version := by
  unfold Descriptor.ofJson model at h
  split at h
  case h_2 => contradiction
  next fields =>
  suffices hfields : ∀ d, Descriptor.ofFields fields = .ok d → IsShort d.version from hfields d h
  -- The version is the first of six fields.
  iterate 5 refine Checked.forall_ap ?_
  intro make hmake
  rw [Checked.ap_eq_ok] at hmake
  obtain ⟨_, version, hmk, hversion, rfl⟩ := hmake
  cases hmk
  intros
  show IsShort version
  unfold Schema.optional at hversion
  split at hversion
  next json hget =>
    rw [Checked.inside_eq_ok] at hversion
    refine isShort_of_integer hversion ?_
    rintro n rfl
    exact hjson n hget
  · cases hversion
    rfl

/-! ## Read back from what is written -/

/-- A member of a vocabulary is read back from its word. -/
@[simp] theorem Schema.member_ofMember {α : Type} [Vocabulary α] (a : α) :
    member α (.ofMember a) = .ok a := by
  rw [Json.ofMember, member, Vocabulary.ofWord?_word]

/-- An optional member of a vocabulary is read back from its word, or from null where there is
none. -/
@[simp] theorem Schema.nullable_ofMember? {α : Type} [Vocabulary α] (a? : Option α) :
    nullable (member α) (.ofMember? a?) = .ok a? := by
  cases a? with
  | none => rfl
  | some a =>
    show (member α (.ofMember a)).map some = _
    rw [member_ofMember]
    rfl

/-- An optional truth value is read back from itself, or from null where there is none. -/
@[simp] theorem Schema.nullable_optionalBool (b? : Option Bool) :
    nullable boolean (Request.optionalBool b?) = .ok b? := by
  cases b? <;> rfl

/-- No operation is written like the older word for pushing an atom. -/
@[simp] theorem Token.readOp_ofMember (op : ProgramOp) : Token.readOp (.ofMember op) = .ok op := by
  cases op <;> rfl

/-- An atom with an id is read back. -/
theorem Atom.ofJson_toJson {a : Atom} (h : a.id ≠ "") : Atom.ofJson a.toJson = .ok a := by
  simp [Atom.ofJson, Atom.toJson, model, Atom.ofFields, Schema.required, Schema.optional,
    Json.Fields.get?, nonEmptyText_string h]

/-- Every token is read back. -/
theorem Token.ofJson_toJson (t : Token) : Token.ofJson t.toJson = .ok t := by
  simp [Token.ofJson, Token.toJson, model, Token.ofFields, Schema.required, Schema.optional,
    Json.Fields.get?]

/-- Every item is read back. -/
theorem Item.ofJson_toJson (i : Item) : Item.ofJson i.toJson = .ok i := by
  simp [Item.ofJson, Item.toJson, model, Item.ofFields, Schema.required, Schema.optional,
    Json.Fields.get?]

/-- A list of atoms is read back when each has an id. -/
theorem listOf_atoms {atoms : List Atom} (h : ∀ a ∈ atoms, a.id ≠ "") :
    listOf .wire Atom.ofJson (.array (atoms.map Atom.toJson)) = .ok atoms :=
  listOf_array fun a ha => Atom.ofJson_toJson (h a ha)

/-- A program is read back token by token. -/
theorem listOf_tokens (tokens : List Token) :
    listOf .wire Token.ofJson (.array (tokens.map Token.toJson)) = .ok tokens :=
  listOf_array fun t _ => t.ofJson_toJson

/-- A request is read back when its atoms have ids. -/
theorem Request.ofJson_toJson {r : Request} (h : ∀ a ∈ r.atoms, a.id ≠ "") :
    Request.ofJson r.toJson = .ok r := by
  simp [Request.ofJson, Request.toJson, model, Request.ofFields, readAtoms, readTokens,
    Schema.optional, Json.Fields.get?, listOf_atoms h, listOf_tokens]

/-- A descriptor is read back when its atoms have ids. -/
theorem Descriptor.ofJson_toJson {d : Descriptor} (h : ∀ a ∈ d.atoms, a.id ≠ "") :
    Descriptor.ofJson d.toJson = .ok d := by
  simp [Descriptor.ofJson, Descriptor.toJson, model, Descriptor.ofFields, readAtoms, readTokens,
    Schema.optional, Json.Fields.get?, listOf_atoms h, listOf_tokens]

/-! ## Within the bounds of a message -/

variable {levels : Nat}

/-- A word of a vocabulary fits on any level. -/
theorem Json.fits_ofMember {α : Type} [Vocabulary α] (a : α) : Fits levels (.ofMember a) :=
  .string _

/-- A word of a vocabulary fits on any level, and so does null in its place. -/
theorem Json.fits_ofMember? {α : Type} [Vocabulary α] (a? : Option α) :
    Fits levels (.ofMember? a?) := by
  cases a? with
  | none => exact .null
  | some a => exact fits_ofMember a

/-- A text fits on any level, and so does null in its place. -/
theorem Json.fits_optionalString (s? : Option String) : Fits levels (.optionalString s?) := by
  cases s? with
  | none => exact .null
  | some s => exact .string s

/-- A truth value fits on any level, and so does null in its place. -/
theorem Json.fits_optionalBool (b? : Option Bool) : Fits levels (Request.optionalBool b?) := by
  cases b? with
  | none => exact .null
  | some b => exact .bool b

/-- A list nests one level deeper than its items. -/
theorem Json.fits_map {α : Type} {write : α → Json} {xs : List α} (h : ∀ x, Fits levels (write x)) :
    Fits (levels + 1) (.array (xs.map write)) := .array (List.forall_mem_map.mpr fun x _ => h x)

/-- A list of texts takes one level. -/
theorem Json.fits_strings (texts : List String) : Fits (levels + 1) (.strings texts) :=
  fits_map .string

/-- An atom takes two levels, the second for its lists of texts. -/
theorem Atom.fits_toJson (a : Atom) : Fits (levels + 2) a.toJson := by
  refine .object (by simp) ?_
  simp [fits_ofMember, fits_ofMember?, fits_optionalString, fits_strings, Fits.string, Fits.bool]

/-- A token takes one level. -/
theorem Token.fits_toJson (t : Token) : Fits (levels + 1) t.toJson := by
  refine .object (by simp) ?_
  simp [fits_ofMember, fits_optionalString]

/-- An item takes one level. -/
theorem Item.fits_toJson (i : Item) : Fits (levels + 1) i.toJson := by
  refine .object (by simp) ?_
  simp [fits_ofMember, fits_ofMember?, fits_optionalString, Fits.string, Fits.bool]

/-- A request takes four levels: its own, that of the list of its atoms, and the two of an atom. -/
theorem Request.fits_toJson (r : Request) : Fits (levels + 4) r.toJson := by
  refine .object (by simp) ?_
  simp [fits_map Atom.fits_toJson, fits_map Token.fits_toJson, fits_optionalBool, fits_ofMember?]

/-- A descriptor takes four levels like a request, when its version does not have too many
digits. -/
theorem Descriptor.fits_toJson {d : Descriptor} (h : IsShort d.version) :
    Fits (levels + 4) d.toJson := by
  refine .object (by simp) ?_
  simp [fits_map Atom.fits_toJson, fits_map Token.fits_toJson, fits_ofMember, fits_strings,
    Fits.string, Fits.int h]

/-! ## Surviving -/

section Survival

variable {α : Type} {read : Reader α} {write : α → Json} {a : α}

/-- What is written of an artifact is read as the artifact, and so the same is written again. -/
structure Restored (read : Reader α) (write : α → Json) (a : α) : Prop where
  read_write : read (write a) = .ok a
  write_read : (read (write a)).map write = .ok (write a)

/-- The artifact is read from the texts as well that it is stored as. -/
structure Survives (read : Reader α) (write : α → Json) (a : α) :
    Prop extends Restored read write a where
  read_texts : ∀ text ∈ (write a).texts, (Json.parseMessage? text).map read = some (.ok a)

/-- An artifact that is read back is written again as it was. -/
theorem Restored.of_read_write (h : read (write a) = .ok a) : Restored read write a := by
  refine ⟨h, ?_⟩
  rw [h]
  rfl

/-- An artifact that is read back survives as a text, too, when what is written of it fits into a
message. -/
theorem Survives.of_fits (h : read (write a) = .ok a) (hfits : Fits nestingLimit (write a)) :
    Survives read write a := by
  refine ⟨.of_read_write h, fun text htext => ?_⟩
  rw [parseMessage?_of_mem_texts hfits text htext]
  exact congrArg some h

end Survival

end ScopeAlgebra
