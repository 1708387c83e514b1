import ScopeAlgebra.Proofs.Atoms.Lacking
import ScopeAlgebra.Proofs.Catalog.Families
import ScopeAlgebra.Proofs.Pattern.Margins

/-!
# What the lenient policy passes on

Under the lenient policy an atom is passed on in its normal form or, when it does not resolve,
nearly as it is. Neither lacks what it is described by, so resolution does not refuse it as
malformed (`not_malformed_resolve_of_normalizeUnder`), and its own failure mode stays.
-/

namespace ScopeAlgebra

namespace Atom

open Catalog

variable {ws : Workspace} {providers : List Provider} {policy : CollisionPolicy}
  {order : List CatalogFamily} {catalog : Snapshot} {allow : Bool} {a a' : Atom}
  {cause : Unresolved}

/-! ## Failure modes -/

/-- A normal form keeps the failure mode of the atom. -/
theorem Normalizes.onFailure?_eq (h : Normalizes catalog ws allow a a') :
    a'.onFailure? = a.onFailure? := by
  cases h <;> rfl

/-- What stands for an atom that does not resolve keeps its failure mode. -/
@[simp] theorem onFailure?_fallback (cause : Unresolved) :
    (a.fallback cause).onFailure? = a.onFailure? := by
  unfold fallback
  split
  · split <;> rfl
  · rfl

/-- Whatever an atom is passed on as keeps its failure mode. -/
theorem onFailure?_of_normalizeUnder {policy : Policy} {notes : Diagnostics}
    (h : a.normalizeUnder policy catalog ws allow = .ok (a', notes)) :
    a'.onFailure? = a.onFailure? := by
  rcases normalizeUnder_eq_ok.mp h with ⟨hnormal, -⟩ | ⟨-, cause, -, rfl, -⟩
  · exact hnormal.onFailure?_eq
  · exact onFailure?_fallback cause

/-! ## Payloads -/

/-- An atom with a reference lacks nothing, unless its kind is ad hoc: it is looked up, or has its
payload. -/
theorem not_lacking_of_present {refId : String} (hkind : a.kind.isAdhoc = false)
    (hid : Text.present? a.refId? = some refId) : ¬ a.Lacking catalog := by
  unfold Lacking
  split
  · simp [hid]
  next hby =>
    -- The reference does not decide, which leaves kinds that have a payload and show it.
    have hpayload : a.kind.isReference = false ∧ a.hasPayload = true := by
      simp only [Snapshot.resolvesByReference, hkind, hid] at hby
      by_cases hreference : a.kind.isReference = true
      · simp [hreference] at hby
      · simp only [hreference, Bool.false_eq_true, if_false, Bool.or_eq_true, not_or] at hby
        exact ⟨by simpa using hreference, by simpa using hby.2⟩
    obtain ⟨hreference, hpayload⟩ := hpayload
    cases hk : a.kind <;> simp only [hasPayload, hk] at hpayload hreference hkind ⊢
    -- What an atom lacks would contradict that it has its payload.
    case standard | namedPattern =>
      intro hnone
      simp [hnone] at hpayload
    case module =>
      rintro (hnone | hnone) <;> simp [hnone] at hpayload
    all_goals contradiction

/-- An atom of an ad-hoc kind lacks what its kind calls for, whatever its reference. -/
theorem lacking_iff_of_isAdhoc (hkind : a.kind.isAdhoc = true) : a.Lacking catalog ↔
    (a.kind = .adhocPattern ∧ Text.present? a.pattern? = none) ∨
      (a.kind = .directory ∧ Text.present? a.directoryUrl? = none) ∨
      (a.kind = .fileSet ∧ canonicalUrls a.fileUrls = []) := by
  rw [Lacking, resolvesByReference_of_isAdhoc hkind]
  cases hk : a.kind <;> simp [hk, AtomKind.isAdhoc] at hkind ⊢

/-- An atom for a text that is not blank lacks nothing that it did not lack before. -/
theorem not_lacking_withPattern {text : String} (htext : Text.isBlankText text = false)
    (ha : a.kind ≠ .adhocPattern → ¬ a.Lacking catalog) :
    ¬ (a.withPattern text).Lacking catalog := by
  have hkind : (a.withPattern text).kind = a.kind := rfl
  have hpresent : Text.present? (a.withPattern text).pattern? ≠ none := by
    simp [withPattern, Text.present?, htext]
  -- The new text fills in what a pattern needs; any other atom did not lack anything before.
  by_cases hadhoc : a.kind.isAdhoc = true
  · rw [lacking_iff_of_isAdhoc (hkind ▸ hadhoc)]
    rintro (⟨-, hnone⟩ | hlacking)
    · exact hpresent hnone
    · have hother : a.kind ≠ .adhocPattern := by
        rcases hlacking with ⟨hk, -⟩ | ⟨hk, -⟩ <;> simp [← hkind, hk]
      exact ha hother ((lacking_iff_of_isAdhoc hadhoc).mpr (.inr hlacking))
  · have hhash : Text.present? (a.withPattern text).refId? = some (RefId.pattern text) := by
      have hhead : "pattern:".toList.head? = some 'p' := rfl
      exact Text.present?_append hhead (by decide) (RefId.present?_shortHash text)
    exact not_lacking_of_present (by simpa [hkind] using hadhoc) hhash

/-- A normal form lacks nothing. -/
theorem Normalizes.not_lacking (hbuild : Snapshot.build ws providers policy order = .ok catalog)
    (h : Normalizes catalog ws allow a a') : ¬ a'.Lacking catalog := by
  -- Every rule gives a normal form with the id or the payload that its kind calls for.
  cases h with
  | @reference refId r hby hid hget hallowed =>
    obtain ⟨horigin, rfl⟩ := origin_of_get? hbuild hget
    exact not_lacking_of_present horigin.isAdhoc_kind (Text.present?_of_present? hid)
  | standard hby hkind hid =>
    exact not_lacking_of_present (by simp [hkind, AtomKind.isAdhoc])
      (RefId.present?_standard (Text.present?_of_present? hid))
  | module hby hkind hname hflavor =>
    exact not_lacking_of_present (by simp [hkind, AtomKind.isAdhoc]) RefId.present?_module
  | named hby hkind hname hholder | onlyHolder hby hkind hname hholder honly =>
    exact not_lacking_of_present (by simp [withScope, hkind, AtomKind.isAdhoc])
      (RefId.present?_named (Text.present?_of_present? hname))
  | pattern hkind htext hcanonical =>
    exact not_lacking_withPattern (Pattern.isBlankText_of_canonical hcanonical) (absurd hkind)
  | directory hkind hurl =>
    rw [lacking_iff_of_isAdhoc (by simp [hkind, AtomKind.isAdhoc])]
    simp [hkind, Text.present?_of_present? hurl]
  | files hkind hurls =>
    rw [lacking_iff_of_isAdhoc (by simp [hkind, AtomKind.isAdhoc])]
    simp [hkind, hurls]

/-- What stands for an atom that does not resolve lacks nothing either. -/
theorem not_lacking_fallback (h : a.normalize catalog ws allow = .error (.unresolved cause)) :
    ¬ (a.fallback cause).Lacking catalog := by
  have hnot : ¬ a.Lacking catalog := by
    rw [← malformed_normalize, h]
    exact not_malformed_unresolved cause
  unfold fallback
  split
  · split
    next text htext =>
      obtain ⟨given, -, hblank, rfl⟩ := Text.present?_eq_some.mp htext
      have htrim : Text.isBlankText (Text.trim given) = false := by
        obtain ⟨_, hsame, hblank, -⟩ := Text.present?_eq_some.mp (Text.present?_of_present? htext)
        rwa [Option.some.inj hsame]
      exact not_lacking_withPattern htrim fun _ => hnot
    · exact hnot
  · exact hnot

/-- What an atom is passed on as is not refused as malformed when it is resolved. -/
theorem not_malformed_resolve_of_normalizeUnder {policy' : Policy} {notes : Diagnostics}
    (hbuild : Snapshot.build ws providers policy order = .ok catalog)
    (h : a.normalizeUnder policy' catalog ws allow = .ok (a', notes)) :
    ¬ Malformed (a'.resolve catalog ws allow) := by
  rw [malformed_resolve_iff]
  intro hbare
  -- Resolution only refuses bare atoms, and neither a normal form nor a fallback is one.
  rcases normalizeUnder_eq_ok.mp h with ⟨hnormal, -⟩ | ⟨-, cause, hcause, rfl, -⟩
  · exact hnormal.not_lacking hbuild hbare.lacking
  · exact not_lacking_fallback hcause hbare.lacking

/-! ## Lists of atoms -/

/-- Under the lenient policy only malformed atoms are refused. -/
theorem exists_normalizeUnder_lenient
    (h : ∀ e, a.normalizeUnder .lenient catalog ws allow = .error e → e.family ≠ .invalidAtom) :
    ∃ a' notes, a.normalizeUnder .lenient catalog ws allow = .ok (a', notes) := by
  cases hresult : a.normalizeUnder .lenient catalog ws allow with
  | ok found => exact ⟨found.1, found.2, rfl⟩
  | error e =>
    refine absurd ?_ (h e hresult)
    unfold normalizeUnder at hresult
    split at hresult
    · contradiction
    · contradiction
    next e' hnot herror =>
      cases e' with
      | missing kind payload =>
        cases hresult
        rfl
      | unresolved cause => exact absurd rfl (hnot cause)

end Atom

variable {catalog : Snapshot} {ws : Workspace} {allow : Bool} {atoms : List Atom}

/-- Under the lenient policy atoms are passed on together when none of them is refused. -/
theorem exists_normalizeEach_lenient
    (h : ∀ a ∈ atoms, ∀ e, a.normalizeUnder .lenient catalog ws allow = .error e →
      e.family ≠ .invalidAtom) :
    ∃ normals notes, normalizeEach .lenient catalog ws allow atoms = .ok (normals, notes) := by
  -- Each atom is passed on by itself, so the lists follow by induction.
  induction atoms with
  | nil => exact ⟨[], [], rfl⟩
  | cons a rest ih =>
    obtain ⟨ha, hrest⟩ := List.forall_mem_cons.mp h
    obtain ⟨normal, first, hfirst⟩ := Atom.exists_normalizeUnder_lenient ha
    obtain ⟨normals, more, hmore⟩ := ih hrest
    refine ⟨normal :: normals, first ++ more, Noted.andThen_eq_ok.mpr ⟨normal, first, more,
      hfirst, ?_, rfl⟩⟩
    exact Noted.onValue_eq_ok.mpr ⟨normals, hmore, rfl⟩

end ScopeAlgebra
