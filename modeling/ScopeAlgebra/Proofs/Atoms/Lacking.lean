import ScopeAlgebra.Proofs.Atoms.Resolve

/-!
# Atoms that lack their payload

An atom that lacks what its kind calls for is refused as malformed, by normalization and by
resolution alike, and no other atom is. Resolution takes texts as they are written, so the two agree
on trimmed atoms only.
-/

namespace ScopeAlgebra

/-- A result was refused for want of a payload. -/
def Malformed {α : Type} (x : Except AtomError α) : Prop :=
  ∃ kind payload, x = .error (.missing kind payload)

section Malformed

variable {α β : Type}

/-- A value is no refusal. -/
@[simp] theorem not_malformed_ok (a : α) : ¬ Malformed (.ok a : Except AtomError α) := by
  simp [Malformed]

/-- A missing payload is a refusal. -/
@[simp] theorem malformed_missing (kind : AtomKind) (payload : Payload) :
    Malformed (.error (.missing kind payload) : Except AtomError α) := ⟨kind, payload, rfl⟩

/-- An atom that does not resolve is not refused as malformed. -/
@[simp] theorem not_malformed_unresolved (cause : Unresolved) :
    ¬ Malformed (.error (.unresolved cause) : Except AtomError α) := by simp [Malformed]

/-- A computation is refused when its first part is, or the rest is on its value. -/
theorem malformed_bind {x : Except AtomError α} {f : α → Except AtomError β} :
    Malformed (x >>= f) ↔ Malformed x ∨ ∃ a, x = .ok a ∧ Malformed (f a) := by
  rcases x with (⟨kind, payload⟩ | cause) | a <;> simp [Malformed, bind, Except.bind]

/-- An error says that an atom is malformed exactly when it says that a payload is missing. -/
theorem family_ofAtom (atomId : String) (e : AtomError) :
    (EngineError.ofAtom atomId e).family = .invalidAtom ↔
      ∃ kind payload, e = .missing kind payload := by
  cases e <;> simp [EngineError.ofAtom, EngineError.family]

end Malformed

namespace Atom

variable {catalog : Snapshot} {ws : Workspace} {allow : Bool} {a : Atom}

/-- An atom lacks what it is described by. -/
def Lacking (catalog : Snapshot) (a : Atom) : Prop :=
  if catalog.resolvesByReference a then Text.present? a.refId? = none
  else
    match a.kind with
    | .standard => Text.present? a.standardId? = none
    | .module => Text.present? a.moduleName? = none ∨ a.flavor? = none
    | .namedPattern => Text.present? a.scopeName? = none
    | .adhocPattern => Text.present? a.pattern? = none
    | .directory => Text.present? a.directoryUrl? = none
    | .fileSet => canonicalUrls a.fileUrls = []
    | .catalogRef | .provider => True

/-- A payload that is required is refused exactly when it is blank or absent. -/
theorem malformed_require {value? : Option String} {payload : Payload} :
    Malformed (a.require value? payload) ↔ Text.present? value? = none := by
  unfold require
  cases Text.present? value? <;> simp

/-- What is looked up in the catalog may be missing there, but that refuses no atom. -/
theorem not_malformed_lookUp {refId : String} : ¬ Malformed (lookUp catalog allow refId) := by
  unfold lookUp
  split
  · simp
  · split <;> simp

/-- A computation that needs a payload first is refused exactly without it, when the rest is never
refused. -/
theorem malformed_require_bind {α : Type} {value? : Option String} {payload : Payload}
    {f : String → Except AtomError α} (hf : ∀ value, ¬ Malformed (f value)) :
    Malformed (a.require value? payload >>= f) ↔ Text.present? value? = none := by
  rw [malformed_bind, malformed_require]
  exact or_iff_left fun ⟨value, _, h⟩ => hf value h

/-! ## Normalization -/

/-- A module is refused by normalization exactly without its name or its flavor. -/
theorem malformed_normalizeModule :
    Malformed a.normalizeModule ↔ Text.present? a.moduleName? = none ∨ a.flavor? = none := by
  -- The flavor is only asked for when there is a name, so the two causes are taken one after the
  -- other.
  rw [normalizeModule, malformed_bind, malformed_require]
  cases hname : Text.present? a.moduleName? with
  | none => simp
  | some name => cases a.flavor? <;> simp [require, hname, pure, Except.pure]

/-- A named scope is refused by normalization exactly without its name; a holder may be missing. -/
theorem malformed_normalizeNamed :
    Malformed (a.normalizeNamed ws) ↔ Text.present? a.scopeName? = none := by
  refine malformed_require_bind fun name => ?_
  split
  · simp [pure, Except.pure]
  · split <;> simp [pure, Except.pure]

/-- A pattern is refused by normalization exactly without its text, however that reads. -/
theorem malformed_normalizePattern :
    Malformed a.normalizePattern ↔ Text.present? a.pattern? = none := by
  refine malformed_require_bind fun text => ?_
  split <;> simp [pure, Except.pure]

/-- A set of files is refused by normalization exactly when no url is left in it. -/
theorem malformed_normalizeFiles : Malformed a.normalizeFiles ↔ canonicalUrls a.fileUrls = [] := by
  unfold normalizeFiles
  cases canonicalUrls a.fileUrls <;> simp

/-- Normalization refuses exactly the atoms that lack what they are described by. -/
theorem malformed_normalize : Malformed (a.normalize catalog ws allow) ↔ a.Lacking catalog := by
  unfold Lacking
  -- A reference that decides needs an id; otherwise each kind calls for its own payload.
  split
  next hby =>
    rw [normalize_of_reference hby]
    refine malformed_require_bind fun refId => ?_
    simp [malformed_bind, not_malformed_lookUp, pure, Except.pure]
  next hby =>
    rw [normalize_of_payload (by simpa using hby), normalizePayload]
    cases a.kind with
    | standard => exact malformed_require_bind fun scopeId => not_malformed_ok _
    | module => exact malformed_normalizeModule
    | namedPattern => exact malformed_normalizeNamed
    | adhocPattern => exact malformed_normalizePattern
    | directory => exact malformed_require_bind fun url => not_malformed_ok _
    | fileSet => exact malformed_normalizeFiles
    | catalogRef | provider => simp

/-! ## Resolution -/

/-- The texts by which an atom is looked up. -/
def texts (a : Atom) : List (Option String) :=
  [a.refId?, a.standardId?, a.moduleName?, a.scopeName?, a.holderId?, a.pattern?, a.directoryUrl?]

/-- An atom of which no text and no url has white space at its ends, and no url is empty. -/
structure Trimmed (a : Atom) : Prop where
  texts : ∀ s? ∈ a.texts, ∀ s ∈ s?, Text.trim s = s
  urls : ∀ url ∈ a.fileUrls, Text.trim url = url ∧ url ≠ ""

/-- A text of a trimmed atom is present when it is not empty. -/
theorem Trimmed.present?_eq_nonEmpty? (h : a.Trimmed) {s? : Option String} (hs : s? ∈ a.texts) :
    Text.present? s? = nonEmpty? s? := by
  cases s? with
  | none => rfl
  | some s =>
    have htrim : Text.trim s = s := h.texts (some s) hs s rfl
    by_cases hs : s = ""
    · subst hs
      rfl
    · rw [Text.present?_of_trim_eq htrim hs]
      simp [nonEmpty?, Option.filter, hs]

/-- Canonical urls are the given ones when these are trimmed. -/
theorem Trimmed.mem_canonicalUrls (h : a.Trimmed) {url : String} :
    url ∈ canonicalUrls a.fileUrls ↔ url ∈ a.fileUrls := by
  rw [ScopeAlgebra.mem_canonicalUrls]
  have hpresent (given : String) (hgiven : given ∈ a.fileUrls) :
      Text.present? (some given) = some given :=
    Text.present?_of_trim_eq (h.urls given hgiven).1 (h.urls given hgiven).2
  constructor
  · rintro ⟨given, hgiven, hurl⟩
    rw [hpresent given hgiven] at hurl
    exact Option.some.inj hurl ▸ hgiven
  · exact fun hurl => ⟨url, hurl, hpresent url hurl⟩

/-- A trimmed set of files has canonical urls as soon as it has any. -/
theorem Trimmed.canonicalUrls_eq_nil_iff (h : a.Trimmed) :
    canonicalUrls a.fileUrls = [] ↔ a.fileUrls = [] := by
  simp only [List.eq_nil_iff_forall_not_mem, h.mem_canonicalUrls]

/-- What is made of a value does not matter to a refusal. -/
theorem malformed_map {α β : Type} {x : Except AtomError α} {f : α → β} :
    Malformed (x.map f) ↔ Malformed x := by
  rcases x with (⟨kind, payload⟩ | cause) | value <;> simp [Except.map]

/-- An error that stands for a failed resolution refuses no atom. -/
theorem not_malformed_mapError {ε α : Type} {x : Except ε α} {cause : ε → Unresolved} :
    ¬ Malformed (x.mapError fun e => .unresolved (cause e)) := by
  cases x with
  | error e => exact not_malformed_unresolved (cause e)
  | ok a => exact not_malformed_ok a

/-- A standard scope is refused by resolution exactly without its id. -/
theorem malformed_resolveStandard :
    Malformed (a.resolveStandard catalog allow) ↔ nonEmpty? a.standardId? = none := by
  unfold resolveStandard
  cases nonEmpty? a.standardId? with
  | none => simp
  | some scopeId =>
    simp only [reduceCtorEq, iff_false]
    split
    · exact not_malformed_unresolved _
    · exact malformed_map.not.mpr not_malformed_lookUp

/-- A module is refused by resolution exactly without its name or its flavor. -/
theorem malformed_resolveModule :
    Malformed (a.resolveModule ws) ↔ nonEmpty? a.moduleName? = none ∨ a.flavor? = none := by
  unfold resolveModule
  cases nonEmpty? a.moduleName? with
  | none => simp
  | some name =>
    cases a.flavor? with
    | none => simp
    | some flavor => cases h : ws.findModule? name <;> simp [h, notFound]

/-- A named scope is refused by resolution exactly without its name. -/
theorem malformed_resolveNamed : Malformed (a.resolveNamed ws) ↔ nonEmpty? a.scopeName? = none := by
  -- Too few or too many holders leave the scope unresolved, which is no refusal.
  have hfind (holderId? : Option String) (name : String) :
      ¬ Malformed (findScope ws holderId? name) := by
    unfold findScope
    split
    · exact not_malformed_ok _
    · split <;> simp [notFound]
  unfold resolveNamed
  cases nonEmpty? a.scopeName? with
  | none => simp
  | some name =>
    simp only [malformed_bind, hfind, reduceCtorEq, iff_false, not_or, not_exists, not_and,
      not_false_eq_true, true_and]
    intro scope? _
    split
    · exact not_malformed_unresolved _
    · split
      · exact not_malformed_unresolved _
      · exact not_malformed_mapError

/-- An atom lacks what it is described by, its texts and urls taken as they are written. -/
def Bare (catalog : Snapshot) (a : Atom) : Prop :=
  if catalog.resolvesByReference a then Text.present? a.refId? = none
  else
    match a.kind with
    | .standard => nonEmpty? a.standardId? = none
    | .module => nonEmpty? a.moduleName? = none ∨ a.flavor? = none
    | .namedPattern => nonEmpty? a.scopeName? = none
    | .adhocPattern => nonEmpty? a.pattern? = none
    | .directory => nonEmpty? a.directoryUrl? = none
    | .fileSet => a.fileUrls = []
    | .catalogRef | .provider => True

/-- Resolution refuses exactly the atoms that are bare. -/
theorem malformed_resolve_iff : Malformed (a.resolve catalog ws allow) ↔ a.Bare catalog := by
  unfold Bare
  split
  next hby =>
    rw [resolve_of_reference hby]
    refine malformed_require_bind fun refId => ?_
    simp [malformed_bind, not_malformed_lookUp, pure, Except.pure]
  next hby =>
    rw [resolve_of_payload (by simpa using hby), resolvePayload]
    -- The ad-hoc kinds make their scopes from the payload, where everything but its absence is a
    -- failed resolution.
    cases a.kind with
    | standard => exact malformed_resolveStandard
    | module => exact malformed_resolveModule
    | namedPattern => exact malformed_resolveNamed
    | adhocPattern =>
      cases nonEmpty? a.pattern? with
      | none => simp
      | some text => exact iff_of_false not_malformed_mapError (by simp)
    | directory =>
      cases nonEmpty? a.directoryUrl? with
      | none => simp
      | some url => exact iff_of_false not_malformed_mapError (by simp)
    | fileSet =>
      by_cases hurls : a.fileUrls = []
      · simp [hurls]
      · simp only [List.isEmpty_iff, hurls, if_false, iff_false]
        exact not_malformed_mapError
    | catalogRef | provider => simp

/-- Only a bare atom is refused by resolution, and normalization refuses it too. -/
theorem Bare.lacking (h : a.Bare catalog) : a.Lacking catalog := by
  -- An empty text is blank.
  have hblank {s? : Option String} (hs : nonEmpty? s? = none) : Text.present? s? = none := by
    cases s? with
    | none => rfl
    | some s =>
      obtain rfl : s = "" := by simpa [nonEmpty?, Option.filter] using hs
      rfl
  unfold Bare at h
  unfold Lacking
  split
  next hby => rwa [if_pos hby] at h
  next hby =>
    rw [if_neg hby] at h
    cases hkind : a.kind <;> simp only [hkind] at h ⊢
    case standard | namedPattern | adhocPattern | directory => exact hblank h
    case module => exact h.imp_left hblank
    case fileSet =>
      rw [h]
      rfl

/-- A trimmed atom is bare when it lacks what it is described by. -/
theorem Trimmed.bare_iff (h : a.Trimmed) : a.Bare catalog ↔ a.Lacking catalog := by
  have hpresent (s? : Option String) (hs : s? ∈ a.texts) : nonEmpty? s? = Text.present? s? :=
    (h.present?_eq_nonEmpty? hs).symm
  unfold Bare Lacking
  split
  · exact Iff.rfl
  -- One case for each kind: the text that it needs is one of the trimmed texts.
  · cases a.kind with
    | standard => rw [hpresent a.standardId? (by simp [Atom.texts])]
    | module => rw [hpresent a.moduleName? (by simp [Atom.texts])]
    | namedPattern => rw [hpresent a.scopeName? (by simp [Atom.texts])]
    | adhocPattern => rw [hpresent a.pattern? (by simp [Atom.texts])]
    | directory => rw [hpresent a.directoryUrl? (by simp [Atom.texts])]
    | fileSet => exact h.canonicalUrls_eq_nil_iff.symm
    | catalogRef | provider => exact Iff.rfl

/-- Resolution refuses exactly the trimmed atoms that lack what they are described by. -/
theorem malformed_resolve (htrimmed : a.Trimmed) :
    Malformed (a.resolve catalog ws allow) ↔ a.Lacking catalog :=
  malformed_resolve_iff.trans htrimmed.bare_iff

end Atom

end ScopeAlgebra
