import ScopeAlgebra.Atoms.Resolve
import ScopeAlgebra.Proofs.Atoms.Normal

/-!
# What atoms resolve to

`Atom.Resolves` has one rule for every way in which an atom is given a predicate, and
`resolve_eq_ok` says that resolution follows these rules.
-/

namespace ScopeAlgebra.Atom

variable {catalog : Snapshot} {ws : Workspace} {allow : Bool} {a : Atom} {p : Predicate}

/-- The predicates of an atom, by the way in which it is described. -/
inductive Resolves (catalog : Snapshot) (ws : Workspace) (allow : Bool) (a : Atom) :
    Predicate → Prop where
  | reference {refId : String} {r : Record} (hby : catalog.resolvesByReference a = true)
    (hid : Text.present? a.refId? = some refId) (hget : catalog.get? refId = some r)
    (hallowed : Snapshot.isAllowed allow r = true) : Resolves catalog ws allow a r.predicate
  | standard {scopeId : String} {r : Record} (hby : catalog.resolvesByReference a = false)
    (hkind : a.kind = .standard) (hid : nonEmpty? a.standardId? = some scopeId)
    (hget : catalog.get? (RefId.standard scopeId) = some r)
    (hallowed : Snapshot.isAllowed allow r = true) : Resolves catalog ws allow a r.predicate
  | module {name : String} {flavor : ModuleFlavor} {m : Module}
    (hby : catalog.resolvesByReference a = false) (hkind : a.kind = .module)
    (hname : nonEmpty? a.moduleName? = some name) (hflavor : a.flavor? = some flavor)
    (hm : ws.findModule? name = some m) : Resolves catalog ws allow a (ws.moduleScope m flavor)
  | named {name text : String} {scope : NamedScope} (hby : catalog.resolvesByReference a = false)
    (hkind : a.kind = .namedPattern) (hname : nonEmpty? a.scopeName? = some name)
    (hscope : findScope ws a.holderId? name = .ok (some scope)) (htext : scope.pattern? = some text)
    {p : Predicate} (hp : Workspace.patternScope text (some scope.displayName) = .ok p) :
    Resolves catalog ws allow a p
  | pattern {text : String} (hkind : a.kind = .adhocPattern)
    (htext : nonEmpty? a.pattern? = some text) {p : Predicate}
    (hp : Workspace.patternScope text none = .ok p) : Resolves catalog ws allow a p
  | directory {url : String} (hkind : a.kind = .directory)
    (hurl : nonEmpty? a.directoryUrl? = some url) {p : Predicate}
    (hp : ws.directoryScope url a.recursive = .ok p) : Resolves catalog ws allow a p
  | files (hkind : a.kind = .fileSet) (hurls : a.fileUrls ≠ []) {p : Predicate}
    (hp : ws.filesScope a.fileUrls = .ok p) : Resolves catalog ws allow a p

/-- An atom is looked up when its reference decides. -/
theorem resolve_of_reference (hby : catalog.resolvesByReference a = true) :
    a.resolve catalog ws allow = a.resolveReference catalog allow := by
  rw [resolve, if_pos hby]

/-- An atom is given a predicate by its payload when its reference does not decide. -/
theorem resolve_of_payload (hby : catalog.resolvesByReference a = false) :
    a.resolve catalog ws allow = a.resolvePayload catalog ws allow := by
  rw [resolve, if_neg (by simp [hby])]

/-- The rule `reference`, read off the computation. -/
theorem resolveReference_eq_ok : a.resolveReference catalog allow = .ok p ↔
    ∃ refId, Text.present? a.refId? = some refId ∧ ∃ r, catalog.get? refId = some r ∧
      Snapshot.isAllowed allow r = true ∧ r.predicate = p := by
  simp only [resolveReference, bind_eq_ok, require_eq_ok, lookUp_eq_ok, pure, Except.pure,
    Except.ok.injEq, and_assoc]

/-- A standard scope is looked up in the catalog under the id that is made from its own. -/
theorem resolveStandard_eq_ok :
    a.resolveStandard catalog allow = .ok p ↔
      ∃ scopeId, nonEmpty? a.standardId? = some scopeId ∧
        ∃ r, catalog.get? (RefId.standard scopeId) = some r ∧
          Snapshot.isAllowed allow r = true ∧ r.predicate = p := by
  unfold resolveStandard
  cases nonEmpty? a.standardId? with
  | none => simp
  | some scopeId =>
    -- The look-up is asked twice: whether the record is there, and then whether it may be used.
    by_cases hget : (catalog.get? (RefId.standard scopeId)).isNone = true
    · simp [notFound, Option.isNone_iff_eq_none.mp hget]
    · simp only [hget, Bool.false_eq_true, if_false, map_eq_ok, lookUp_eq_ok]
      simp [and_assoc]

/-- The rule `module`, read off the computation. -/
theorem resolveModule_eq_ok : a.resolveModule ws = .ok p ↔
    ∃ name, nonEmpty? a.moduleName? = some name ∧ ∃ flavor, a.flavor? = some flavor ∧
      ∃ m, ws.findModule? name = some m ∧ ws.moduleScope m flavor = p := by
  unfold resolveModule
  cases nonEmpty? a.moduleName? with
  | none => simp
  | some name =>
    cases a.flavor? with
    | none => simp
    | some flavor => cases h : ws.findModule? name <;> simp [h, notFound]

/-- A pattern's predicate is the scope of its text; what differs is the error. -/
theorem patternPredicate_eq_ok {text : String} {name? : Option String} :
    patternPredicate text name? = .ok p ↔ Workspace.patternScope text name? = .ok p :=
  mapError_eq_ok

/-- The rule `named`, read off the computation. -/
theorem resolveNamed_eq_ok :
    a.resolveNamed ws = .ok p ↔
      ∃ name, nonEmpty? a.scopeName? = some name ∧
        ∃ scope, findScope ws a.holderId? name = .ok (some scope) ∧
          ∃ text, scope.pattern? = some text ∧
            Workspace.patternScope text (some scope.displayName) = .ok p := by
  unfold resolveNamed
  cases nonEmpty? a.scopeName? with
  | none => simp
  | some name =>
    simp only [bind_eq_ok, Option.some.injEq, exists_eq_left']
    constructor
    · rintro ⟨scope?, hscope, h⟩
      split at h
      · contradiction
      next scope =>
        split at h
        · contradiction
        next text htext => exact ⟨scope, hscope, text, htext, patternPredicate_eq_ok.mp h⟩
    · rintro ⟨scope, hscope, text, htext, hp⟩
      refine ⟨some scope, hscope, ?_⟩
      simp only [htext]
      exact patternPredicate_eq_ok.mpr hp

/-- What resolution gives follows one of the rules. -/
theorem resolves_of_resolve (h : a.resolve catalog ws allow = .ok p) :
    Resolves catalog ws allow a p := by
  cases hby : catalog.resolvesByReference a with
  | true =>
    rw [resolve_of_reference hby] at h
    obtain ⟨refId, hid, r, hget, hallowed, rfl⟩ := resolveReference_eq_ok.mp h
    exact .reference hby hid hget hallowed
  | false =>
    rw [resolve_of_payload hby, resolvePayload] at h
    split at h
    next hkind =>
      obtain ⟨scopeId, hid, r, hget, hallowed, rfl⟩ := resolveStandard_eq_ok.mp h
      exact .standard hby hkind hid hget hallowed
    next hkind =>
      obtain ⟨name, hname, flavor, hflavor, m, hm, rfl⟩ := resolveModule_eq_ok.mp h
      exact .module hby hkind hname hflavor hm
    next hkind =>
      obtain ⟨name, hname, scope, hscope, text, htext, hp⟩ := resolveNamed_eq_ok.mp h
      exact .named hby hkind hname hscope htext hp
    next hkind =>
      split at h
      · contradiction
      next text htext => exact .pattern hkind htext (patternPredicate_eq_ok.mp h)
    next hkind =>
      split at h
      · contradiction
      next url hurl => exact .directory hkind hurl (mapError_eq_ok.mp h)
    next hkind =>
      split at h
      · contradiction
      next hurls => exact .files hkind (by simpa using hurls) (mapError_eq_ok.mp h)
    all_goals contradiction

/-- Each of the rules is one that resolution follows. -/
theorem Resolves.resolve_eq_ok (h : Resolves catalog ws allow a p) :
    a.resolve catalog ws allow = .ok p := by
  -- The ad-hoc kinds need no hypothesis on the reference, which never decides for them.
  cases h with
  | reference hby hid hget hallowed =>
    rw [resolve_of_reference hby]
    exact resolveReference_eq_ok.mpr ⟨_, hid, _, hget, hallowed, rfl⟩
  | standard hby hkind hid hget hallowed =>
    rw [resolve_of_payload hby, resolvePayload, hkind]
    exact resolveStandard_eq_ok.mpr ⟨_, hid, _, hget, hallowed, rfl⟩
  | module hby hkind hname hflavor hm =>
    rw [resolve_of_payload hby, resolvePayload, hkind]
    exact resolveModule_eq_ok.mpr ⟨_, hname, _, hflavor, _, hm, rfl⟩
  | named hby hkind hname hscope htext hp =>
    rw [resolve_of_payload hby, resolvePayload, hkind]
    exact resolveNamed_eq_ok.mpr ⟨_, hname, _, hscope, _, htext, hp⟩
  | pattern hkind htext hp =>
    rw [resolve_of_payload (resolvesByReference_of_isAdhoc (by rw [hkind]; rfl)),
      resolvePayload, hkind]
    simp only [htext]
    exact patternPredicate_eq_ok.mpr hp
  | directory hkind hurl hp =>
    rw [resolve_of_payload (resolvesByReference_of_isAdhoc (by rw [hkind]; rfl)),
      resolvePayload, hkind]
    simp only [hurl]
    exact mapError_eq_ok.mpr hp
  | files hkind hurls hp =>
    rw [resolve_of_payload (resolvesByReference_of_isAdhoc (by rw [hkind]; rfl)),
      resolvePayload, hkind]
    simp only [List.isEmpty_iff, hurls, if_false]
    exact mapError_eq_ok.mpr hp

/-- Resolution gives the predicates of the rules and no others. -/
theorem resolve_eq_ok : a.resolve catalog ws allow = .ok p ↔ Resolves catalog ws allow a p :=
  ⟨resolves_of_resolve, Resolves.resolve_eq_ok⟩

end ScopeAlgebra.Atom
