import ScopeAlgebra.Proofs.Atoms.Lacking
import ScopeAlgebra.Proofs.Program.Evaluation
import ScopeAlgebra.Proofs.Program.Leniency

/-!
# Lenient evaluation completes

Where no failure aborts, every atom that is not malformed has a value, and every operation makes a
value of values. So a program has a value too, and what it stands for can only be nothing at all,
which takes that every pushed atom was skipped (`evaluate_of_forgiving`).
-/

namespace ScopeAlgebra.Program

variable {cx : Context} {atoms : AtomMap} {a : Atom}

/-- An atom that does not resolve and is left out for it. -/
def Skipped (cx : Context) (a : Atom) : Prop :=
  (∃ cause, a.resolve cx.catalog cx.workspace cx.allowInteractive = .error (.unresolved cause)) ∧
    FailureMode.effective a.onFailure? cx.failureMode = .skip

/-- An atom that is not malformed and does not abort the program when it does not resolve. -/
structure Tolerated (cx : Context) (a : Atom) : Prop where
  wellFormed : ¬ Malformed (a.resolve cx.catalog cx.workspace cx.allowInteractive)
  forgiven : FailureMode.effective a.onFailure? cx.failureMode ≠ .fail

/-- An atom that resolves, or does not resolve and has something put in its place. -/
def Answered (cx : Context) (a : Atom) : Prop :=
  ∀ e, a.resolve cx.catalog cx.workspace cx.allowInteractive = .error e →
    (∃ cause, e = .unresolved cause) ∧ FailureMode.effective a.onFailure? cx.failureMode ≠ .fail

/-- A tolerated atom is answered. -/
theorem Tolerated.answered (h : Tolerated cx a) : Answered cx a := by
  intro e he
  cases e with
  | missing kind payload => exact absurd ⟨kind, payload, he⟩ h.wellFormed
  | unresolved cause => exact ⟨⟨cause, rfl⟩, h.forgiven⟩

/-- A context in which failures do not abort. -/
structure Context.Forgiving (cx : Context) : Prop where
  lenient : cx.policy = .lenient
  default_ne_fail : cx.failureMode ≠ .fail

/-! ## Values -/

/-- Under the lenient policy an answered atom has a value, which is nothing exactly when the atom is
skipped. -/
theorem leafValue_of_answered (hpolicy : cx.policy = .lenient) (h : Answered cx a) :
    ∃ v notes, leafValue cx a = .ok (v, notes) ∧ (v = none ↔ Skipped cx a) := by
  unfold leafValue Skipped
  cases hresolve : a.resolve cx.catalog cx.workspace cx.allowInteractive with
  | ok p => exact ⟨some p, [], rfl, by simp⟩
  | error e =>
    obtain ⟨⟨cause, rfl⟩, hmode⟩ := h e hresolve
    have hmode : a.onFailure?.getD cx.failureMode ≠ .fail := hmode
    simp only [hpolicy, FailureMode.effective]
    cases hskip : a.onFailure?.getD cx.failureMode with
    | fail => exact absurd hskip hmode
    | emptyScope => exact ⟨some .nothing, _, rfl, by simp⟩
    | skip => exact ⟨none, _, rfl, by simp⟩

/-- Where failures do not abort, a value has a complement, which is nothing exactly when the value
is. -/
theorem complementValue_of_forgiving (hcx : cx.Forgiving) (index : Nat) (v : Value) :
    ∃ v' notes, complementValue cx index v = .ok (v', notes) ∧ (v' = none ↔ v = none) := by
  cases v with
  | none => exact ⟨none, _, rfl, Iff.rfl⟩
  | some p =>
    have hmode : cx.failureMode ≠ .fail := hcx.default_ne_fail
    simp only [complementValue, hcx.lenient]
    cases p.shape <;> cases hdefault : cx.failureMode <;>
      first
      | exact absurd hdefault hmode
      | exact ⟨_, _, rfl, by simp⟩

/-- Where failures do not abort, an expression over answered atoms has a value, which is nothing
exactly when all of the atoms are skipped. -/
theorem value_of_forgiving (hcx : cx.Forgiving) {e : Expr}
    (h : ∀ id ∈ e.atomIds, ∃ a, atoms.lookup id = some a ∧ Answered cx a) (index : Nat) :
    ∃ v notes, e.value cx atoms index = .ok (v, notes) ∧
      (v = none ↔ ∀ id ∈ e.atomIds, ∃ a, atoms.lookup id = some a ∧ Skipped cx a) := by
  -- The induction is over the expression, with the index free, since it only names tokens in notes.
  induction e generalizing index with
  | atom id =>
    obtain ⟨a, ha, hanswered⟩ := h id (List.mem_singleton_self id)
    obtain ⟨v, notes, hv, hnone⟩ := leafValue_of_answered hcx.lenient hanswered
    refine ⟨v, notes, ?_, ?_⟩
    · simp only [Expr.value, ha, hv]
    · simp [Expr.atomIds, ha, hnone]
  | binary c left right ihl ihr =>
    obtain ⟨hl, hr⟩ := List.forall_mem_append.mp h
    obtain ⟨x, first, hx, hxnone⟩ := ihl hl index
    obtain ⟨y, more, hy, hynone⟩ := ihr hr (index + left.tokens.length)
    -- A skipped operand gives way to the other, so nothing is left only of two skipped ones.
    have hjoin : ∃ v, (Expr.binary c left right).value cx atoms index = .ok (v, first ++ more) ∧
        (v = none ↔ x = none ∧ y = none) := by
      rcases x with _ | p <;> rcases y with _ | q <;>
        refine ⟨_, Noted.andThen_eq_ok.mpr ⟨_, first, more, hx, Noted.andThen_eq_ok.mpr
          ⟨_, more, [], hy, rfl, (List.append_nil more).symm⟩, rfl⟩, ?_⟩ <;>
        simp
    obtain ⟨v, hv, hvnone⟩ := hjoin
    refine ⟨v, first ++ more, hv, ?_⟩
    rw [hvnone, hxnone, hynone]
    exact List.forall_mem_append.symm
  | not operand ih =>
    obtain ⟨x, first, hx, hxnone⟩ := ih h index
    obtain ⟨v, more, hv, hvnone⟩ :=
      complementValue_of_forgiving hcx (index + operand.tokens.length) x
    exact ⟨v, first ++ more, Noted.andThen_eq_ok.mpr ⟨x, first, more, hx, hv, rfl⟩,
      hvnone.trans hxnone⟩

/-- Under the lenient policy the atoms that have a value are answered. -/
theorem answered_of_leafValue {v : Value} {notes : Diagnostics} (hpolicy : cx.policy = .lenient)
    (h : leafValue cx a = .ok (v, notes)) : Answered cx a := by
  intro e he
  cases e with
  | missing kind payload => simp [leafValue, he] at h
  | unresolved cause =>
    refine ⟨⟨cause, rfl⟩, fun hmode => ?_⟩
    have hmode : a.onFailure?.getD cx.failureMode = .fail := hmode
    simp [leafValue, he, hpolicy, hmode] at h

/-- An expression that has a value is one over answered atoms. -/
theorem answered_of_value (hpolicy : cx.policy = .lenient) {e : Expr} {index : Nat} {v : Value}
    {notes : Diagnostics} (h : e.value cx atoms index = .ok (v, notes)) :
    ∀ id ∈ e.atomIds, ∃ a, atoms.lookup id = some a ∧ Answered cx a := by
  induction e generalizing index v notes with
  | atom id =>
    refine List.forall_mem_singleton.mpr ?_
    rw [Expr.value] at h
    split at h
    · contradiction
    next a ha => exact ⟨a, ha, answered_of_leafValue hpolicy h⟩
  | binary c left right ihl ihr =>
    obtain ⟨x, _, _, hleft, hrest, -⟩ := Noted.andThen_eq_ok.mp h
    obtain ⟨y, _, _, hright, -, -⟩ := Noted.andThen_eq_ok.mp hrest
    exact List.forall_mem_append.mpr ⟨ihl hleft, ihr hright⟩
  | not operand ih =>
    obtain ⟨x, _, _, hoperand, -, -⟩ := Noted.andThen_eq_ok.mp h
    exact ih hoperand

/-- Where failures do not abort, the outcome of an expression over answered atoms is a scope, or it
is empty because all atoms are skipped. -/
theorem outcome_of_forgiving (hcx : cx.Forgiving) {e : Expr}
    (h : ∀ id ∈ e.atomIds, ∃ a, atoms.lookup id = some a ∧ Answered cx a) :
    ((∃ scope, e.outcome cx atoms = .ok scope) ∨ e.outcome cx atoms = .error .emptyExpression) ∧
      (e.outcome cx atoms = .error .emptyExpression ↔
        ∀ id ∈ e.atomIds, ∃ a, atoms.lookup id = some a ∧ Skipped cx a) := by
  obtain ⟨v, notes, hv, hnone⟩ := value_of_forgiving hcx h 0
  rw [← hnone, Expr.outcome, hv]
  cases v with
  | none => exact ⟨.inr rfl, by simp⟩
  | some p => exact ⟨.inl ⟨_, rfl⟩, by simp⟩

/-! ## Programs -/

/-- The pushes of an expression are those of its atoms. -/
theorem Expr.mem_tokens_push {e : Expr} {t : Token} (ht : t ∈ e.tokens) (hpush : t.op = .push) :
    ∃ id ∈ e.atomIds, t = Token.ofAtom id := by
  induction e with
  | atom id =>
    obtain rfl := List.mem_singleton.mp ht
    exact ⟨id, List.mem_singleton_self id, rfl⟩
  | binary c left right ihl ihr =>
    simp only [Expr.tokens, List.mem_append, List.mem_singleton] at ht
    rcases ht with (ht | ht) | rfl
    · obtain ⟨id, hid, rfl⟩ := ihl ht
      exact ⟨id, List.mem_append_left _ hid, rfl⟩
    · obtain ⟨id, hid, rfl⟩ := ihr ht
      exact ⟨id, List.mem_append_right _ hid, rfl⟩
    · cases c <;> contradiction
  | not operand ih =>
    simp only [Expr.tokens, List.mem_append, List.mem_singleton] at ht
    rcases ht with ht | rfl
    · exact ih ht
    · contradiction

/-- Every expression has an atom. -/
theorem Expr.exists_mem_atomIds (e : Expr) : ∃ id, id ∈ e.atomIds := by
  induction e with
  | atom id => exact ⟨id, List.mem_singleton_self id⟩
  | binary c left right ihl _ =>
    obtain ⟨id, hid⟩ := ihl
    exact ⟨id, List.mem_append_left _ hid⟩
  | not operand ih => exact ih

/-- Every atom of an expression is pushed. -/
theorem Expr.ofAtom_mem_tokens {e : Expr} {id : String} (h : id ∈ e.atomIds) :
    Token.ofAtom id ∈ e.tokens := by
  induction e with
  | atom id' =>
    obtain rfl := List.mem_singleton.mp h
    exact List.mem_singleton_self _
  | binary c left right ihl ihr =>
    rcases List.mem_append.mp h with h | h
    · simp [Expr.tokens, ihl h]
    · simp [Expr.tokens, ihr h]
  | not operand ih =>
    have hmem : Token.ofAtom id ∈ operand.tokens := ih h
    simp [Expr.tokens, hmem]

/-- Leaving out an idle id does not change the operation. -/
theorem op_bareToken (t : Token) : (bareToken t).op = t.op := by
  obtain ⟨op, atomId?⟩ := t
  cases op <;> rfl

/-- The pushes of a program are those of its expression's atoms. -/
theorem Writes.forall_push_iff {ids : List String} {e : Expr} {tokens : List Token}
    (h : Writes ids e tokens) {P : String → Prop} :
    (∀ t ∈ tokens, t.op = .push → ∃ id, t.atomId? = some id ∧ P id) ↔ ∀ id ∈ e.atomIds, P id := by
  -- Only operations carry idle ids, so pushes are written as they are.
  have hbare (t : Token) (hpush : t.op = .push) : bareToken t = t := by rw [bareToken, hpush]
  constructor
  · intro hall id hid
    have hmem : Token.ofAtom id ∈ tokens.map bareToken := h.tokens_eq ▸ Expr.ofAtom_mem_tokens hid
    obtain ⟨t, ht, hsame⟩ := List.mem_map.mp hmem
    have hpush : t.op = .push := by
      rw [← op_bareToken t, hsame]
      rfl
    rw [hbare t hpush] at hsame
    subst hsame
    obtain ⟨id', hid', hP⟩ := hall _ ht rfl
    obtain rfl : id = id' := Option.some.inj hid'
    exact hP
  · intro hall t ht hpush
    have hmem : bareToken t ∈ e.tokens := h.tokens_eq ▸ List.mem_map_of_mem ht
    rw [hbare t hpush] at hmem
    obtain ⟨id, hid, rfl⟩ := Expr.mem_tokens_push hmem hpush
    exact ⟨id, rfl, hall id hid⟩

/-- A well-formed program pushes something. -/
theorem exists_push_of_check {ids : List String} {tokens : List Token}
    (h : check ids tokens = .ok ()) : ∃ t ∈ tokens, t.op = .push := by
  obtain ⟨e, hwrites⟩ := writes_of_check h
  by_contra hnone
  have hall : ∀ t ∈ tokens, t.op = .push → ∃ id, t.atomId? = some id ∧ False :=
    fun t ht hpush => absurd ⟨t, ht, hpush⟩ hnone
  obtain ⟨id, hid⟩ := e.exists_mem_atomIds
  exact hwrites.forall_push_iff.mp hall id hid

/-- Among atoms with distinct ids each is found under its own. -/
theorem lookup_of_mem {given : List Atom} (hnodup : (given.map Atom.id).Nodup) (ha : a ∈ given) :
    (given.map fun a => (a.id, a)).lookup a.id = some a := by
  induction given with
  | nil => contradiction
  | cons first rest ih =>
    obtain ⟨hfirst, hrest⟩ := List.nodup_cons.mp hnodup
    rw [List.map_cons, List.lookup_cons]
    -- The first atom is found at once; any other one has another id, so the search goes on.
    rcases List.mem_cons.mp ha with rfl | ha
    · simp
    · have hne : a.id ≠ first.id := fun hsame => hfirst (hsame ▸ List.mem_map_of_mem ha)
      have hbeq : (a.id == first.id) = false := beq_eq_false_iff_ne.mpr hne
      simp only [hbeq]
      exact ih hrest ha

/-- Ids that pass the check are distinct. -/
theorem nodup_ids_of_checkDistinct {given : List Atom} (h : checkDistinct given = .ok ()) :
    (given.map Atom.id).Nodup := by
  unfold checkDistinct at h
  split at h
  · contradiction
  next hnone => exact (nodup_of_firstRepeat? hnone).1

/-- A well-formed program over distinct atoms evaluates to the outcome of the expression that it
writes. -/
theorem evaluate_of_writes {tokens : List Token} {given : List Atom} {e : Expr}
    (hdistinct : checkDistinct given = .ok ()) (hcheck : check (given.map Atom.id) tokens = .ok ())
    (hwrites : Writes (given.map Atom.id) e tokens) :
    evaluate cx tokens given = e.outcome cx (given.map fun a => (a.id, a)) := by
  have hkeys : (given.map fun a => (a.id, a)).map Prod.fst = given.map Atom.id := List.map_map
  rw [evaluate, hdistinct]
  exact execute_of_writes (hkeys ▸ hcheck) (hkeys ▸ hwrites)

/-- Where failures do not abort, a well-formed program over tolerated atoms gives a scope, or the
empty expression because every pushed atom was skipped. -/
theorem evaluate_of_forgiving (hcx : cx.Forgiving) {tokens : List Token} {given : List Atom}
    (hdistinct : checkDistinct given = .ok ())
    (hcheck : check (given.map Atom.id) tokens = .ok ()) (h : ∀ a ∈ given, Tolerated cx a) :
    ((∃ scope, evaluate cx tokens given = .ok scope) ∨
      evaluate cx tokens given = .error .emptyExpression) ∧
      (evaluate cx tokens given = .error .emptyExpression ↔
        ∀ t ∈ tokens, t.op = .push → ∃ a ∈ given, t.atomId? = some a.id ∧ Skipped cx a) := by
  have hnodup : (given.map Atom.id).Nodup := nodup_ids_of_checkDistinct hdistinct
  obtain ⟨e, hwrites⟩ := writes_of_check hcheck
  have hfound (id : String) (hid : id ∈ e.atomIds) :
      ∃ a ∈ given, a.id = id ∧ (given.map fun a => (a.id, a)).lookup id = some a := by
    obtain ⟨a, ha, rfl⟩ := List.mem_map.mp (hwrites.known id hid).2
    exact ⟨a, ha, rfl, lookup_of_mem hnodup ha⟩
  have hanswered (id : String) (hid : id ∈ e.atomIds) :
      ∃ a, (given.map fun a => (a.id, a)).lookup id = some a ∧ Answered cx a := by
    obtain ⟨a, ha, -, hlookup⟩ := hfound id hid
    exact ⟨a, hlookup, (h a ha).answered⟩
  have hskipped (t : Token) : (∃ a ∈ given, t.atomId? = some a.id ∧ Skipped cx a) ↔
      ∃ id, t.atomId? = some id ∧ ∃ a ∈ given, a.id = id ∧ Skipped cx a := by
    constructor
    · rintro ⟨a, ha, hid, hskip⟩
      exact ⟨a.id, hid, a, ha, rfl, hskip⟩
    · rintro ⟨_, hid, a, ha, rfl, hskip⟩
      exact ⟨a, ha, hid, hskip⟩
  obtain ⟨hanswer, hempty⟩ := outcome_of_forgiving hcx hanswered
  simp only [evaluate_of_writes hdistinct hcheck hwrites, hskipped, hwrites.forall_push_iff]
  -- Ids are distinct, so the atom that an id is looked up as is the one that has it.
  refine ⟨hanswer, hempty.trans (forall₂_congr fun id hid => ?_)⟩
  obtain ⟨a, ha, rfl, hlookup⟩ := hfound id hid
  constructor
  · rintro ⟨a', ha', hskip⟩
    obtain rfl : a' = a := Option.some.inj (ha'.symm.trans hlookup)
    exact ⟨a', ha, rfl, hskip⟩
  · rintro ⟨a', ha', hid', hskip⟩
    exact ⟨a', hid' ▸ lookup_of_mem hnodup ha', hskip⟩

end ScopeAlgebra.Program
