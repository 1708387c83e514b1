import Mathlib.Data.List.Forall2
import Mathlib.Data.String.Basic
import ScopeAlgebra.Atoms.Normal
import ScopeAlgebra.Proofs.Noted
import ScopeAlgebra.Proofs.Text.Blank

/-!
# What normalization does

`Atom.Normalizes` has one rule for every way in which an atom can be described, and
`normalize_eq_ok` says that normalization follows these rules. Lists of urls are brought into the
one ascending order of their trimmed texts.
-/

namespace ScopeAlgebra

/-! ## Canonical urls -/

section Urls

variable {s t : String} {urls : List String}

/-- Inserting a text adds it to the list and nothing else. -/
theorem mem_insertSorted : s ∈ insertSorted t urls ↔ s = t ∨ s ∈ urls := by
  induction urls with
  | nil => simp [insertSorted]
  | cons u rest ih =>
    rw [insertSorted]
    -- In front of the first text, in place of the same text, or further back.
    split
    · simp
    · split
      next heq =>
        subst heq
        simp
      · simp only [List.mem_cons, ih]
        exact or_left_comm

/-- A text is inserted where an ascending list stays ascending. -/
theorem sorted_insertSorted (h : urls.Pairwise (· < ·)) :
    (insertSorted t urls).Pairwise (· < ·) := by
  induction urls with
  | nil => simp [insertSorted]
  | cons u rest ih =>
    obtain ⟨hu, hrest⟩ := List.pairwise_cons.mp h
    rw [insertSorted]
    split
    next hlt =>
      -- The text is smaller than the head and so smaller than all that follows.
      refine List.pairwise_cons.mpr ⟨fun v hv => ?_, h⟩
      rcases List.mem_cons.mp hv with rfl | hv
      · exact hlt
      · exact lt_trans hlt (hu v hv)
    next hlt =>
      split
      · exact h
      next hne =>
        -- Behind the head the new text is larger than it, since it is neither smaller nor equal.
        refine List.pairwise_cons.mpr ⟨fun v hv => ?_, ih hrest⟩
        rcases mem_insertSorted.mp hv with rfl | hv
        · exact lt_of_le_of_ne (not_lt.mp hlt) (Ne.symm hne)
        · exact hu v hv

/-- A text in front of all others is inserted in front. -/
theorem insertSorted_of_forall_lt (h : ∀ u ∈ urls, t < u) : insertSorted t urls = t :: urls := by
  cases urls with
  | nil => rfl
  | cons u rest => rw [insertSorted, if_pos (h u List.mem_cons_self)]

/-- The canonical urls are the given ones that are not blank, trimmed. -/
theorem mem_canonicalUrls :
    s ∈ canonicalUrls urls ↔ ∃ url ∈ urls, Text.present? (some url) = some s := by
  -- Whatever order the texts are inserted in, they are the members at the end.
  have hfold (texts : List String) : s ∈ texts.foldr insertSorted [] ↔ s ∈ texts := by
    induction texts with
    | nil => rfl
    | cons u rest ih => rw [List.foldr_cons, mem_insertSorted, ih, List.mem_cons]
  rw [canonicalUrls, hfold, List.mem_filterMap]

/-- Canonical urls ascend, so none is there twice. -/
theorem sorted_canonicalUrls (urls : List String) : (canonicalUrls urls).Pairwise (· < ·) := by
  unfold canonicalUrls
  induction urls.filterMap fun url => Text.present? (some url) with
  | nil => exact .nil
  | cons u rest ih => exact sorted_insertSorted ih

/-- Urls are canonical when they ascend and each of them is trimmed and not blank. -/
theorem canonicalUrls_eq_self_iff :
    canonicalUrls urls = urls ↔
      urls.Pairwise (· < ·) ∧ ∀ url ∈ urls, Text.present? (some url) = some url := by
  constructor
  · intro h
    refine ⟨h ▸ sorted_canonicalUrls urls, fun url hurl => ?_⟩
    rw [← h] at hurl
    obtain ⟨given, -, hgiven⟩ := mem_canonicalUrls.mp hurl
    exact Text.present?_of_present? hgiven
  · rintro ⟨hsorted, hpresent⟩
    -- The induction is from the back, as the urls are inserted: an ascending list is rebuilt by
    -- inserting its head in front of the rest.
    induction urls with
    | nil => rfl
    | cons u rest ih =>
      obtain ⟨hu, hrest⟩ := List.pairwise_cons.mp hsorted
      obtain ⟨hpresentu, hpresent⟩ := List.forall_mem_cons.mp hpresent
      calc canonicalUrls (u :: rest)
        _ = insertSorted u (canonicalUrls rest) := by simp [canonicalUrls, hpresentu]
        _ = insertSorted u rest := by rw [ih hrest hpresent]
        _ = u :: rest := insertSorted_of_forall_lt hu

/-- Canonical urls are their own canonical urls. -/
@[simp] theorem canonicalUrls_canonicalUrls (urls : List String) :
    canonicalUrls (canonicalUrls urls) = canonicalUrls urls := by
  refine canonicalUrls_eq_self_iff.mpr ⟨sorted_canonicalUrls urls, fun url hurl => ?_⟩
  obtain ⟨given, -, hgiven⟩ := mem_canonicalUrls.mp hurl
  exact Text.present?_of_present? hgiven

end Urls

/-! ## Preferred texts -/

/-- Preferring a text twice is preferring it once. -/
@[simp] theorem preferText_preferText (s? t? : Option String) :
    preferText s? (preferText s? t?) = preferText s? t? := by
  cases s? with
  | none => rfl
  | some s => by_cases hs : s.isEmpty = true <;> simp [preferText, hs]

/-- A text that is not empty is preferred. -/
theorem preferText_of_ne_empty {s : String} (hs : s ≠ "") (t? : Option String) :
    preferText (some s) t? = some s := by
  simp [preferText, String.isEmpty_iff, hs]

namespace Atom

variable {catalog : Snapshot} {ws : Workspace} {allow : Bool} {a a' : Atom} {r : Record}
  {refId : String}

/-! ## Looking atoms up -/

/-- A payload that is required is given trimmed, when it is not blank. -/
theorem require_eq_ok {value? : Option String} {payload : Payload} {value : String} :
    a.require value? payload = .ok value ↔ Text.present? value? = some value := by
  unfold require
  cases Text.present? value? <;> simp

/-- What is looked up is the record of that id, when it may be used. -/
theorem lookUp_eq_ok : lookUp catalog allow refId = .ok r ↔
    catalog.get? refId = some r ∧ Snapshot.isAllowed allow r = true := by
  unfold lookUp
  cases catalog.get? refId with
  | none => simp
  -- A record that is found may still need input, which leaves nothing to give.
  | some r' =>
    by_cases h : Snapshot.isAllowed allow r' = true
    · simp only [h, if_true, Except.ok.injEq, Option.some.injEq]
      exact ⟨by rintro rfl; exact ⟨rfl, h⟩, And.left⟩
    · simp only [h, Bool.false_eq_true, if_false, reduceCtorEq, Option.some.injEq, false_iff]
      rintro ⟨rfl, h'⟩
      exact h h'

/-- An atom is looked up when its kind is not ad hoc and the catalog knows its reference. -/
theorem resolvesByReference_of_get? (hkind : a.kind.isAdhoc = false)
    (hid : Text.present? a.refId? = some refId) (hget : catalog.get? refId = some r) :
    catalog.resolvesByReference a = true := by
  simp [Snapshot.resolvesByReference, hkind, hid, hget]

/-- Atoms of ad-hoc kinds are never looked up. -/
theorem resolvesByReference_of_isAdhoc (hkind : a.kind.isAdhoc = true) :
    catalog.resolvesByReference a = false := by
  cases h : a.kind <;> simp_all [Snapshot.resolvesByReference, AtomKind.isReference,
    AtomKind.isAdhoc]

/-- An atom with its payload is not looked up under a reference that the catalog does not know. -/
theorem resolvesByReference_of_payload (hkind : a.kind.isReference = false)
    (hpayload : a.hasPayload = true)
    (hget : ∀ refId, Text.present? a.refId? = some refId → catalog.get? refId = none) :
    catalog.resolvesByReference a = false := by
  rw [Snapshot.resolvesByReference, hkind]
  cases hid : Text.present? a.refId? with
  | none => simp
  | some refId => simp [hget refId hid, hpayload]

/-! ## The rules of normalization -/

/-- The normal forms of an atom, by the way in which it is described. -/
inductive Normalizes (catalog : Snapshot) (ws : Workspace) (allow : Bool) (a : Atom) :
    Atom → Prop where
  | reference {refId : String} {r : Record} (hby : catalog.resolvesByReference a = true)
    (hid : Text.present? a.refId? = some refId) (hget : catalog.get? refId = some r)
    (hallowed : Snapshot.isAllowed allow r = true) : Normalizes catalog ws allow a (a.enrich r.item)
  | standard {scopeId : String} (hby : catalog.resolvesByReference a = false)
    (hkind : a.kind = .standard) (hid : Text.present? a.standardId? = some scopeId) :
    Normalizes catalog ws allow a { a with
      standardId? := some scopeId, refId? := some (RefId.standard scopeId) }
  | module {name : String} {flavor : ModuleFlavor} (hby : catalog.resolvesByReference a = false)
    (hkind : a.kind = .module) (hname : Text.present? a.moduleName? = some name)
    (hflavor : a.flavor? = some flavor) :
    Normalizes catalog ws allow a { a with
      moduleName? := some name, refId? := some (RefId.module name flavor) }
  | named {name holderId : String} (hby : catalog.resolvesByReference a = false)
    (hkind : a.kind = .namedPattern) (hname : Text.present? a.scopeName? = some name)
    (hholder : Text.present? a.holderId? = some holderId) :
    Normalizes catalog ws allow a (a.withScope holderId name)
  | onlyHolder {name : String} {holder : Holder} (hby : catalog.resolvesByReference a = false)
    (hkind : a.kind = .namedPattern) (hname : Text.present? a.scopeName? = some name)
    (hholder : Text.present? a.holderId? = none) (honly : ws.holdersOf name = [holder]) :
    Normalizes catalog ws allow a (a.withScope holder.id name)
  | pattern {text canonical : String} (hkind : a.kind = .adhocPattern)
    (htext : Text.present? a.pattern? = some text)
    (hcanonical : Pattern.canonical text = .ok canonical) :
    Normalizes catalog ws allow a (a.withPattern canonical)
  | directory {url : String} (hkind : a.kind = .directory)
    (hurl : Text.present? a.directoryUrl? = some url) :
    Normalizes catalog ws allow a { a with
      directoryUrl? := some url, refId? := some (RefId.directory url) }
  | files (hkind : a.kind = .fileSet) (hurls : canonicalUrls a.fileUrls ≠ []) :
    Normalizes catalog ws allow a
      { a with
        fileUrls := canonicalUrls a.fileUrls,
        refId? := some (RefId.files (canonicalUrls a.fileUrls)) }

/-- The rule `reference`, read off the computation. -/
theorem normalizeReference_eq_ok : a.normalizeReference catalog allow = .ok a' ↔
    ∃ refId, Text.present? a.refId? = some refId ∧ ∃ r, catalog.get? refId = some r ∧
      Snapshot.isAllowed allow r = true ∧ a.enrich r.item = a' := by
  simp only [normalizeReference, bind_eq_ok, require_eq_ok, lookUp_eq_ok, pure, Except.pure,
    Except.ok.injEq, and_assoc]

/-- The rules `named` and `onlyHolder`, read off the computation. -/
theorem normalizeNamed_eq_ok : a.normalizeNamed ws = .ok a' ↔
    ∃ name, Text.present? a.scopeName? = some name ∧
      ((∃ holderId, Text.present? a.holderId? = some holderId ∧ a.withScope holderId name = a') ∨
        Text.present? a.holderId? = none ∧
          ∃ holder, ws.holdersOf name = [holder] ∧ a.withScope holder.id name = a') := by
  simp only [normalizeNamed, bind_eq_ok, require_eq_ok]
  refine exists_congr fun name => and_congr_right fun _ => ?_
  cases Text.present? a.holderId? with
  | some holderId => simp [pure, Except.pure]
  | none =>
    match ws.holdersOf name with
    | [] => simp
    | [holder] => simp [pure, Except.pure]
    | _ :: _ :: _ => simp

/-- The rule `pattern`, read off the computation. -/
theorem normalizePattern_eq_ok : a.normalizePattern = .ok a' ↔
    ∃ text, Text.present? a.pattern? = some text ∧
      ∃ canonical, Pattern.canonical text = .ok canonical ∧ a.withPattern canonical = a' := by
  simp only [normalizePattern, bind_eq_ok, require_eq_ok]
  refine exists_congr fun text => and_congr_right fun _ => ?_
  cases Pattern.canonical text <;> simp [pure, Except.pure]

/-- The rule `module`, read off the computation. -/
theorem normalizeModule_eq_ok : a.normalizeModule = .ok a' ↔
    ∃ name, Text.present? a.moduleName? = some name ∧ ∃ flavor, a.flavor? = some flavor ∧
      { a with moduleName? := some name, refId? := some (RefId.module name flavor) } = a' := by
  simp only [normalizeModule, bind_eq_ok, require_eq_ok]
  refine exists_congr fun name => and_congr_right fun _ => ?_
  cases a.flavor? <;> simp [pure, Except.pure]

/-- The rule `files`, read off the computation. -/
theorem normalizeFiles_eq_ok :
    a.normalizeFiles = .ok a' ↔
      canonicalUrls a.fileUrls ≠ [] ∧
        { a with
          fileUrls := canonicalUrls a.fileUrls,
          refId? := some (RefId.files (canonicalUrls a.fileUrls)) } = a' := by
  unfold normalizeFiles
  cases canonicalUrls a.fileUrls <;> simp

/-- An atom is looked up when its reference decides. -/
theorem normalize_of_reference (hby : catalog.resolvesByReference a = true) :
    a.normalize catalog ws allow = a.normalizeReference catalog allow := by
  rw [normalize, if_pos hby]

/-- An atom is normalized by its payload when its reference does not decide. -/
theorem normalize_of_payload (hby : catalog.resolvesByReference a = false) :
    a.normalize catalog ws allow = a.normalizePayload ws := by
  rw [normalize, if_neg (by simp [hby])]

/-- What normalization gives follows one of the rules. -/
theorem normalizes_of_normalize (h : a.normalize catalog ws allow = .ok a') :
    Normalizes catalog ws allow a a' := by
  cases hby : catalog.resolvesByReference a with
  | true =>
    rw [normalize_of_reference hby] at h
    obtain ⟨refId, hid, r, hget, hallowed, rfl⟩ := normalizeReference_eq_ok.mp h
    exact .reference hby hid hget hallowed
  | false =>
    rw [normalize_of_payload hby, normalizePayload] at h
    -- One goal for each kind; references and scopes of providers have no payload to go by.
    split at h
    next hkind =>
      obtain ⟨scopeId, hid, h⟩ := bind_eq_ok.mp h
      cases h
      exact .standard hby hkind (require_eq_ok.mp hid)
    next hkind =>
      obtain ⟨name, hname, flavor, hflavor, rfl⟩ := normalizeModule_eq_ok.mp h
      exact .module hby hkind hname hflavor
    next hkind =>
      obtain ⟨name, hname, ⟨holderId, hholder, rfl⟩ | ⟨hholder, holder, honly, rfl⟩⟩ :=
        normalizeNamed_eq_ok.mp h
      · exact .named hby hkind hname hholder
      · exact .onlyHolder hby hkind hname hholder honly
    next hkind =>
      obtain ⟨text, htext, canonical, hcanonical, rfl⟩ := normalizePattern_eq_ok.mp h
      exact .pattern hkind htext hcanonical
    next hkind =>
      obtain ⟨url, hurl, h⟩ := bind_eq_ok.mp h
      cases h
      exact .directory hkind (require_eq_ok.mp hurl)
    next hkind =>
      obtain ⟨hurls, rfl⟩ := normalizeFiles_eq_ok.mp h
      exact .files hkind hurls
    all_goals contradiction

/-- Each of the rules is one that normalization follows. -/
theorem Normalizes.normalize_eq_ok (h : Normalizes catalog ws allow a a') :
    a.normalize catalog ws allow = .ok a' := by
  -- A rule says which branch is taken and what it finds there, in the order in which it is looked
  -- for.
  cases h with
  | reference hby hid hget hallowed =>
    rw [normalize_of_reference hby]
    exact normalizeReference_eq_ok.mpr ⟨_, hid, _, hget, hallowed, rfl⟩
  | standard hby hkind hid =>
    rw [normalize_of_payload hby, normalizePayload, hkind]
    exact bind_eq_ok.mpr ⟨_, require_eq_ok.mpr hid, rfl⟩
  | module hby hkind hname hflavor =>
    have hpayload : a.normalizePayload ws = a.normalizeModule := by rw [normalizePayload, hkind]
    rw [normalize_of_payload hby, hpayload]
    exact normalizeModule_eq_ok.mpr ⟨_, hname, _, hflavor, rfl⟩
  | named hby hkind hname hholder =>
    have hpayload : a.normalizePayload ws = a.normalizeNamed ws := by rw [normalizePayload, hkind]
    rw [normalize_of_payload hby, hpayload]
    exact normalizeNamed_eq_ok.mpr ⟨_, hname, .inl ⟨_, hholder, rfl⟩⟩
  | onlyHolder hby hkind hname hholder honly =>
    have hpayload : a.normalizePayload ws = a.normalizeNamed ws := by rw [normalizePayload, hkind]
    rw [normalize_of_payload hby, hpayload]
    exact normalizeNamed_eq_ok.mpr ⟨_, hname, .inr ⟨hholder, _, honly, rfl⟩⟩
  | pattern hkind htext hcanonical =>
    have hpayload : a.normalizePayload ws = a.normalizePattern := by rw [normalizePayload, hkind]
    rw [normalize_of_payload (resolvesByReference_of_isAdhoc (by rw [hkind]; rfl)), hpayload]
    exact normalizePattern_eq_ok.mpr ⟨_, htext, _, hcanonical, rfl⟩
  | directory hkind hurl =>
    rw [normalize_of_payload (resolvesByReference_of_isAdhoc (by rw [hkind]; rfl)),
      normalizePayload, hkind]
    exact bind_eq_ok.mpr ⟨_, require_eq_ok.mpr hurl, rfl⟩
  | files hkind hurls =>
    have hpayload : a.normalizePayload ws = a.normalizeFiles := by rw [normalizePayload, hkind]
    rw [normalize_of_payload (resolvesByReference_of_isAdhoc (by rw [hkind]; rfl)), hpayload]
    exact normalizeFiles_eq_ok.mpr ⟨hurls, rfl⟩

/-- Normalization gives the normal forms of the rules and no others. -/
theorem normalize_eq_ok :
    a.normalize catalog ws allow = .ok a' ↔ Normalizes catalog ws allow a a' :=
  ⟨normalizes_of_normalize, Normalizes.normalize_eq_ok⟩

/-- Normal forms keep the ids of their atoms. -/
theorem Normalizes.id_eq (h : Normalizes catalog ws allow a a') : a'.id = a.id := by
  cases h <;> rfl

/-! ## The strict policy -/

/-- Under the strict policy a normal form is given without a note, or an error of the atom. -/
theorem normalizeUnder_strict : a.normalizeUnder .strict catalog ws allow =
    match a.normalize catalog ws allow with
    | .ok normal => .ok (normal, [])
    | .error e => .error (.ofAtom a.id e) := by
  unfold normalizeUnder
  rcases a.normalize catalog ws allow with (_ | cause) | normal
  · rfl
  · simp [EngineError.ofAtom]
  · rfl

/-- Under the strict policy an atom is given in its normal form without a note, or not at all. -/
theorem normalizeUnder_strict_eq_ok {notes : Diagnostics} :
    a.normalizeUnder .strict catalog ws allow = .ok (a', notes) ↔
      Normalizes catalog ws allow a a' ∧ notes = [] := by
  rw [← normalize_eq_ok, normalizeUnder_strict]
  cases a.normalize catalog ws allow with
  | ok normal => simp [eq_comm]
  | error e => simp

/-! ## Any policy -/

/-- What stands for an atom that does not resolve has its id. -/
@[simp] theorem id_fallback (cause : Unresolved) : (a.fallback cause).id = a.id := by
  unfold fallback
  split
  · split <;> rfl
  · rfl

/-- Under any policy an atom is given in its normal form without a note; under the lenient one
something may stand for it with a note that says why it does not resolve. -/
theorem normalizeUnder_eq_ok {policy : Policy} {notes : Diagnostics} :
    a.normalizeUnder policy catalog ws allow = .ok (a', notes) ↔
      Normalizes catalog ws allow a a' ∧ notes = [] ∨
        policy = .lenient ∧ ∃ cause, a.normalize catalog ws allow = .error (.unresolved cause) ∧
          a' = a.fallback cause ∧ notes = [cause.message] := by
  rw [← normalize_eq_ok, normalizeUnder]
  -- Refused, not resolved, or normalized: only the second differs between the policies.
  rcases a.normalize catalog ws allow with (_ | cause) | normal
  · simp
  · cases policy <;> simp [Noted.withNote, eq_comm]
  · simp [Noted.plain, eq_comm]

/-- Whatever an atom is passed on as has its id. -/
theorem id_of_normalizeUnder {policy : Policy} {notes : Diagnostics}
    (h : a.normalizeUnder policy catalog ws allow = .ok (a', notes)) : a'.id = a.id := by
  rcases normalizeUnder_eq_ok.mp h with ⟨hnormal, -⟩ | ⟨-, cause, -, rfl, -⟩
  · exact hnormal.id_eq
  · exact id_fallback cause

end Atom

/-- Under any policy atoms are normalized one by one. -/
theorem normalizeEach_eq_ok {policy : Policy} {catalog : Snapshot} {ws : Workspace} {allow : Bool}
    {atoms normals : List Atom} {notes : Diagnostics}
    (h : normalizeEach policy catalog ws allow atoms = .ok (normals, notes)) :
    List.Forall₂ (fun a normal => ∃ more,
      a.normalizeUnder policy catalog ws allow = .ok (normal, more)) atoms normals := by
  -- The notes of the first atom come in front of those of the rest, so both are generalized.
  induction atoms generalizing normals notes with
  | nil =>
    cases h
    exact .nil
  | cons a rest ih =>
    obtain ⟨normal, first, _, hfirst, hnext, -⟩ := Noted.andThen_eq_ok.mp h
    obtain ⟨normals, hrest, rfl⟩ := Noted.onValue_eq_ok.mp hnext
    exact .cons ⟨first, hfirst⟩ (ih hrest)

/-- Under any policy what is passed on is what some atom is passed on as. -/
theorem mem_normalizeEach {policy : Policy} {catalog : Snapshot} {ws : Workspace} {allow : Bool}
    {atoms normals : List Atom} {notes : Diagnostics} {a' : Atom}
    (h : normalizeEach policy catalog ws allow atoms = .ok (normals, notes)) :
    a' ∈ normals ↔
      ∃ a ∈ atoms, ∃ more, a.normalizeUnder policy catalog ws allow = .ok (a', more) := by
  induction atoms generalizing normals notes with
  | nil =>
    cases h
    simp
  | cons a rest ih =>
    obtain ⟨normal, first, _, hfirst, hnext, -⟩ := Noted.andThen_eq_ok.mp h
    obtain ⟨normals, hrest, rfl⟩ := Noted.onValue_eq_ok.mp hnext
    have hhead : (∃ more, a.normalizeUnder policy catalog ws allow = .ok (a', more)) ↔
        a' = normal := by
      simp [hfirst, eq_comm]
    rw [List.mem_cons, ih hrest, List.exists_mem_cons_iff, hhead]

/-- Atoms that correspond one by one with the same ids have the same ids as a list. -/
theorem ids_eq_of_forall₂ {R : Atom → Atom → Prop} (hR : ∀ a a', R a a' → a'.id = a.id)
    {atoms normals : List Atom} (h : List.Forall₂ R atoms normals) :
    normals.map Atom.id = atoms.map Atom.id := by
  induction h with
  | nil => rfl
  | cons hfirst _ ih => rw [List.map_cons, List.map_cons, hR _ _ hfirst, ih]

/-- The normal forms of atoms have their ids. -/
theorem ids_eq_of_normalizes {catalog : Snapshot} {ws : Workspace} {allow : Bool}
    {atoms normals : List Atom}
    (h : List.Forall₂ (Atom.Normalizes catalog ws allow) atoms normals) :
    normals.map Atom.id = atoms.map Atom.id :=
  ids_eq_of_forall₂ (fun _ _ h => h.id_eq) h

/-- Under any policy atoms keep their ids. -/
theorem ids_eq_of_normalizeEach {policy : Policy} {catalog : Snapshot} {ws : Workspace}
    {allow : Bool} {atoms normals : List Atom} {notes : Diagnostics}
    (h : normalizeEach policy catalog ws allow atoms = .ok (normals, notes)) :
    normals.map Atom.id = atoms.map Atom.id :=
  ids_eq_of_forall₂ (fun _ _ ⟨_, h⟩ => Atom.id_of_normalizeUnder h) (normalizeEach_eq_ok h)

/-- Every one of the normal forms is that of some atom. -/
theorem exists_normalizes_of_mem {catalog : Snapshot} {ws : Workspace} {allow : Bool}
    {atoms normals : List Atom}
    (h : List.Forall₂ (Atom.Normalizes catalog ws allow) atoms normals) {normal : Atom}
    (hnormal : normal ∈ normals) : ∃ a ∈ atoms, a.Normalizes catalog ws allow normal := by
  induction h with
  | nil => simp at hnormal
  | cons hfirst _ ih =>
    rcases List.mem_cons.mp hnormal with rfl | hnormal
    · exact ⟨_, List.mem_cons_self, hfirst⟩
    · obtain ⟨a, ha, h⟩ := ih hnormal
      exact ⟨a, List.mem_cons_of_mem _ ha, h⟩

/-- Atoms are normalized strictly one by one, and nothing is noted. -/
theorem normalizeEach_strict_eq_ok {catalog : Snapshot} {ws : Workspace} {allow : Bool}
    {atoms normals : List Atom} {notes : Diagnostics} :
    normalizeEach .strict catalog ws allow atoms = .ok (normals, notes) ↔
      List.Forall₂ (Atom.Normalizes catalog ws allow) atoms normals ∧ notes = [] := by
  induction atoms generalizing normals notes with
  | nil => simp [normalizeEach, Noted.plain, eq_comm, List.forall₂_nil_left_iff]
  | cons a rest ih =>
    simp only [normalizeEach, Noted.andThen_eq_ok, Noted.onValue_eq_ok,
      Atom.normalizeUnder_strict_eq_ok, ih]
    -- A strict normal form comes without notes, so those of the list are empty too.
    constructor
    · rintro ⟨normal, _, _, ⟨hnormal, rfl⟩, ⟨rest', ⟨hrest, rfl⟩, rfl⟩, rfl⟩
      exact ⟨.cons hnormal hrest, rfl⟩
    · rintro ⟨hall, rfl⟩
      cases hall with
      | cons hnormal hrest => exact ⟨_, [], [], ⟨hnormal, rfl⟩, ⟨_, ⟨hrest, rfl⟩, rfl⟩, rfl⟩

/-- Where every atom has the same normal form, so have lists of atoms. -/
theorem normalizeAtoms_congr {policy : Policy} {catalog catalog' : Snapshot} {ws ws' : Workspace}
    {allow allow' : Bool}
    (h : ∀ a : Atom, a.normalize catalog ws allow = a.normalize catalog' ws' allow')
    (atoms : List Atom) :
    normalizeAtoms policy catalog ws allow atoms =
      normalizeAtoms policy catalog' ws' allow' atoms := by
  have heach (rest : List Atom) :
      normalizeEach policy catalog ws allow rest =
      normalizeEach policy catalog' ws' allow' rest := by
    induction rest with
    | nil => rfl
    | cons a rest ih =>
      rw [normalizeEach, normalizeEach, Atom.normalizeUnder, Atom.normalizeUnder, h a, ih]
  rw [normalizeAtoms, normalizeAtoms, heach]

end ScopeAlgebra
