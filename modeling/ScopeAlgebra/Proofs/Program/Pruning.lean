import ScopeAlgebra.Proofs.Program.Check
import ScopeAlgebra.Proofs.Program.Completion

/-!
# Skipping is pruning

An atom that is skipped leaves nothing on the stack, and an operation passes over it. The same scope
comes out when the skipped leaves are taken off the expression before it is evaluated
(`bare_value_without`): an operation that has lost an operand gives way to the other one, and one
that has lost all of them is lost too (`Expr.without`). Only the notes differ, which mention the
skipped atoms and count the tokens of the longer program.
-/

namespace ScopeAlgebra

/-- A result without what was noted. -/
def Noted.bare {α : Type} (x : Noted α) : Except EngineError α := x.map Prod.fst

/-- Without notes, results one after the other are computations one after the other. -/
theorem Noted.bare_andThen {α β : Type} (x : Noted α) (next : α → Noted β) :
    (x.andThen next).bare = x.bare >>= fun a => (next a).bare := by
  rcases x with e | ⟨a, notes⟩
  · rfl
  · show (andThen (.ok (a, notes)) next).bare = (next a).bare
    rw [andThen]
    cases next a <;> rfl

/-- A scope without what was noted on the way to it. -/
def Resolved.bare (scope : Resolved) : Resolved := { scope with diagnostics := [] }

namespace Program

variable {cx : Context} {atoms : AtomMap} {id : String} {e kept : Expr}

/-! ## Taking leaves off an expression -/

/-- What is left of an expression without some of its leaves: an operation without one of its
operands is the other operand, and nothing is left of one without any. -/
def Expr.without (gone : String → Prop) [DecidablePred gone] : Expr → Option Expr
  | .atom id => if gone id then none else some (.atom id)
  | .binary c left right =>
    match left.without gone, right.without gone with
    | none, right? => right?
    | left?, none => left?
    | some left, some right => some (.binary c left right)
  | .not operand => (operand.without gone).map .not

section Leaves

variable {gone : String → Prop} [DecidablePred gone]

/-- The leaves that are left are those that are not gone, in their order. -/
theorem Expr.atomIds_without (e : Expr) :
    (e.without gone).elim [] Expr.atomIds = e.atomIds.filter fun id => ¬ gone id := by
  induction e with
  | atom id => by_cases hid : gone id <;> simp [without, atomIds, hid]
  | binary c left right ihl ihr =>
    rw [atomIds, List.filter_append, ← ihl, ← ihr, without]
    cases left.without gone <;> cases right.without gone <;> simp [atomIds]
  | not operand ih =>
    rw [atomIds, ← ih, without]
    cases operand.without gone <;> rfl

/-- What is left of an expression names those of its atoms that are not gone. -/
theorem Expr.mem_atomIds_of_without (hkept : e.without gone = some kept) :
    id ∈ kept.atomIds ↔ id ∈ e.atomIds ∧ ¬ gone id := by
  have hleaves : kept.atomIds = e.atomIds.filter fun id => ¬ gone id := by
    rw [← e.atomIds_without, hkept]
    rfl
  simp [hleaves]

/-- Nothing is left exactly when all leaves are gone. -/
theorem Expr.without_eq_none_iff : e.without gone = none ↔ ∀ id ∈ e.atomIds, gone id := by
  cases hkept : e.without gone with
  | none =>
    have hleaves : [] = e.atomIds.filter fun id => ¬ gone id := by
      rw [← e.atomIds_without, hkept]
      rfl
    simpa using hleaves.symm
  | some kept =>
    obtain ⟨id, hid⟩ := kept.exists_mem_atomIds
    obtain ⟨hmem, hnot⟩ := (mem_atomIds_of_without hkept).mp hid
    simp only [reduceCtorEq, false_iff]
    exact fun hall => hnot (hall id hmem)

/-- What is left has only leaves of the whole expression. -/
theorem Expr.Known.without {ids : List String} (h : e.Known ids)
    (hkept : e.without gone = some kept) : kept.Known ids :=
  fun id hid => h id ((mem_atomIds_of_without hkept).mp hid).1

end Leaves

/-! ## Skipped atoms -/

/-- Whether an atom is skipped can be found out by resolving it. -/
instance decidableSkipped (cx : Context) (a : Atom) : Decidable (Skipped cx a) :=
  match hresolve : a.resolve cx.catalog cx.workspace cx.allowInteractive with
  | .error (.unresolved cause) =>
    decidable_of_iff (FailureMode.effective a.onFailure? cx.failureMode = .skip)
      ⟨fun hmode => ⟨⟨cause, hresolve⟩, hmode⟩, And.right⟩
  | .error (.missing kind payload) => isFalse fun ⟨⟨cause, h⟩, _⟩ => by rw [hresolve] at h; cases h
  | .ok p => isFalse fun ⟨⟨cause, h⟩, _⟩ => by rw [hresolve] at h; cases h

/-- The atom that goes by an id is skipped. -/
def SkippedId (cx : Context) (atoms : AtomMap) (id : String) : Prop :=
  ∃ a, atoms.lookup id = some a ∧ Skipped cx a

instance decidableSkippedId (cx : Context) (atoms : AtomMap) :
    DecidablePred (SkippedId cx atoms) := fun id =>
  match hlookup : atoms.lookup id with
  | none => isFalse fun ⟨a, ha, _⟩ => by rw [hlookup] at ha; contradiction
  | some a =>
    decidable_of_iff (Skipped cx a)
      ⟨fun h => ⟨a, hlookup, h⟩, fun ⟨a', ha', h⟩ => by rw [hlookup] at ha'; cases ha'; exact h⟩

/-- A skipped atom has nothing for a value. -/
theorem bare_leafValue_of_skipped {a : Atom} (hpolicy : cx.policy = .lenient) (h : Skipped cx a) :
    (leafValue cx a).bare = .ok none := by
  obtain ⟨⟨cause, hresolve⟩, hmode⟩ := h
  have hmode : a.onFailure?.getD cx.failureMode = .skip := hmode
  simp only [leafValue, hresolve, hpolicy, hmode]
  rfl

/-- A known id belongs to an atom. -/
theorem exists_lookup_of_mem (h : id ∈ atoms.map Prod.fst) : ∃ a, atoms.lookup id = some a := by
  cases hlookup : atoms.lookup id with
  | some a => exact ⟨a, rfl⟩
  | none =>
    obtain ⟨entry, hentry, rfl⟩ := List.mem_map.mp h
    simpa using List.lookup_eq_none_iff.mp hlookup entry hentry

/-! ## Values without notes -/

/-- Where failures do not abort, the index of a negation shows in its note only. -/
theorem bare_complementValue (hcx : cx.Forgiving) (index index' : Nat) (v : Value) :
    (complementValue cx index v).bare = (complementValue cx index' v).bare := by
  cases v with
  | none => rfl
  | some p =>
    have hmode : cx.failureMode ≠ .fail := hcx.default_ne_fail
    simp only [complementValue, hcx.lenient]
    cases p.shape <;> cases hdefault : cx.failureMode <;> first | rfl | exact absurd hdefault hmode

/-- The value of an operation is what its two operands join to. -/
theorem bare_value_binary (c : Connective) (left right : Expr) (index : Nat) :
    ((Expr.binary c left right).value cx atoms index).bare =
      (left.value cx atoms index).bare >>= fun x =>
        (right.value cx atoms (index + left.tokens.length)).bare >>= fun y =>
          .ok (join c.predicate x y) := by
  rw [Expr.value, Noted.bare_andThen]
  congr 1
  funext x
  rw [Noted.bare_andThen]
  congr 1
  funext y
  rcases x with _ | p <;> rcases y with _ | q <;> rfl

/-- Where failures do not abort, the value of an expression over known atoms does not depend on
where it stands. -/
theorem bare_value_index (hcx : cx.Forgiving) (hknown : e.Known (atoms.map Prod.fst))
    (index index' : Nat) : (e.value cx atoms index).bare = (e.value cx atoms index').bare := by
  -- Only negations look at their index, and that for their notes.
  induction e generalizing index index' with
  | atom id =>
    obtain ⟨a, ha⟩ := exists_lookup_of_mem ((Expr.known_atom ..).mp hknown).2
    simp only [Expr.value, ha]
  | binary c left right ihl ihr =>
    obtain ⟨hl, hr⟩ := (Expr.known_binary ..).mp hknown
    rw [bare_value_binary, bare_value_binary, ihl hl index index',
      ihr hr (index + left.tokens.length) (index' + left.tokens.length)]
  | not operand ih =>
    rw [Expr.value, Expr.value, Noted.bare_andThen, Noted.bare_andThen,
      ih ((Expr.known_not ..).mp hknown) index index']
    congr 1
    funext v
    exact bare_complementValue hcx _ _ v

/-- A missing left operand gives way to the right one. -/
theorem bind_join_none_left (combine : Predicate → Predicate → Predicate)
    (y : Except EngineError Value) :
    (Except.ok none >>= fun v => y >>= fun w => .ok (join combine v w)) = y := by
  cases y <;> rfl

/-- A missing right operand gives way to the left one. -/
theorem bind_join_none_right (combine : Predicate → Predicate → Predicate)
    (x : Except EngineError Value) :
    (x >>= fun v => Except.ok none >>= fun w => .ok (join combine v w)) = x := by
  rcases x with err | _ | p <;> rfl

/-- The value, without notes, of what is left of an expression: nothing where nothing is left. -/
def valueOfRest (cx : Context) (atoms : AtomMap) : Option Expr → Except EngineError Value
  | none => .ok none
  | some e => (e.value cx atoms 0).bare

/-- Where failures do not abort, an expression over known atoms has the value of what is left of it
without the atoms that are skipped. -/
theorem bare_value_without (hcx : cx.Forgiving) (hknown : e.Known (atoms.map Prod.fst)) :
    (e.value cx atoms 0).bare = valueOfRest cx atoms (e.without (SkippedId cx atoms)) := by
  -- The induction is over the expression. Operands behind taken leaves move up, which
  -- `bare_value_index` allows.
  induction e with
  | atom id =>
    rw [Expr.without]
    split_ifs with hskipped
    · obtain ⟨a, ha, hskipped⟩ := hskipped
      simp only [Expr.value, ha]
      exact bare_leafValue_of_skipped hcx.lenient hskipped
    · rfl
  | binary c left right ihl ihr =>
    obtain ⟨hl, hr⟩ := (Expr.known_binary ..).mp hknown
    rw [bare_value_binary, bare_value_index hcx hr _ 0, ihl hl, ihr hr, Expr.without]
    -- An operand of which nothing is left has nothing for a value, and gives way to the other one.
    cases left.without (SkippedId cx atoms) with
    | none => exact bind_join_none_left _ _
    | some l =>
      cases hright : right.without (SkippedId cx atoms) with
      | none => exact bind_join_none_right _ _
      | some r =>
        simp only [valueOfRest]
        rw [bare_value_binary, bare_value_index hcx (hr.without hright) (0 + l.tokens.length) 0]
  | not operand ih =>
    rw [Expr.value, Noted.bare_andThen, ih ((Expr.known_not ..).mp hknown), Expr.without]
    cases operand.without (SkippedId cx atoms) with
    | none => rfl
    | some o =>
      simp only [valueOfRest, Option.map_some, Expr.value]
      rw [Noted.bare_andThen]
      congr 1
      funext v
      exact bare_complementValue hcx _ _ v

/-! ## Programs -/

/-- What an expression stands for follows from its value, apart from the notes. -/
theorem bare_outcome (e : Expr) : (e.outcome cx atoms).map Resolved.bare =
    (e.value cx atoms 0).bare >>= fun v =>
      match v with
      | none => .error .emptyExpression
      | some p => .ok ⟨p, p.displayName, p.shape, []⟩ := by
  unfold Expr.outcome
  rcases e.value cx atoms 0 with err | ⟨_ | p, notes⟩ <;> rfl

/-- Where failures do not abort, an expression of which nothing is left stands for nothing. -/
theorem outcome_of_without_eq_none (hcx : cx.Forgiving) (hknown : e.Known (atoms.map Prod.fst))
    (h : e.without (SkippedId cx atoms) = none) : e.outcome cx atoms = .error .emptyExpression := by
  have hbare : (e.outcome cx atoms).map Resolved.bare = .error .emptyExpression := by
    rw [bare_outcome, bare_value_without hcx hknown, h]
    rfl
  cases houtcome : e.outcome cx atoms with
  | ok scope =>
    rw [houtcome] at hbare
    contradiction
  | error err =>
    rw [houtcome] at hbare
    exact hbare

/-- Where failures do not abort, an expression of which something is left stands for a scope exactly
when its atoms are answered. -/
theorem exists_outcome_iff (hcx : cx.Forgiving)
    (hkept : e.without (SkippedId cx atoms) = some kept) :
    (∃ scope, e.outcome cx atoms = .ok scope) ↔
      ∀ id ∈ e.atomIds, ∃ a, atoms.lookup id = some a ∧ Answered cx a := by
  constructor
  · rintro ⟨scope, hscope⟩
    unfold Expr.outcome at hscope
    split at hscope
    · contradiction
    · contradiction
    next hvalue => exact answered_of_value hcx.lenient hvalue
  · intro hanswered
    obtain ⟨hanswer, hempty⟩ := outcome_of_forgiving hcx hanswered
    refine hanswer.resolve_right fun hnothing => ?_
    have hnone : e.without (SkippedId cx atoms) = none :=
      Expr.without_eq_none_iff.mpr (hempty.mp hnothing)
    rw [hkept] at hnone
    contradiction

/-- Where failures do not abort, a program over the atoms of a map is the postfix form of one
expression and no other. It gives nothing exactly when nothing is left of that expression without
the atoms that are skipped. Otherwise what is left is a program too and gives the same answer, notes
apart: the same predicate under the same name and of the same shape, or the same error; and the
answer is a scope exactly when each atom resolves, or does not resolve and has a failure mode other
than aborting. -/
theorem execute_without_skipped (cx : Context) (atoms : AtomMap) (tokens : List Token)
    (hcx : cx.Forgiving) (hcheck : check (atoms.map Prod.fst) tokens = .ok ()) :
    ∃ e, Writes (atoms.map Prod.fst) e tokens ∧
      (∀ e', Writes (atoms.map Prod.fst) e' tokens → e' = e) ∧
      (e.without (SkippedId cx atoms) = none →
        execute cx tokens atoms = .error .emptyExpression) ∧
      ∀ kept, e.without (SkippedId cx atoms) = some kept →
        check (atoms.map Prod.fst) kept.tokens = .ok () ∧
          (execute cx tokens atoms).map Resolved.bare =
            (execute cx kept.tokens atoms).map Resolved.bare ∧
          ((∃ scope, execute cx tokens atoms = .ok scope) ↔
            ∀ id ∈ e.atomIds, ∃ a, atoms.lookup id = some a ∧ Answered cx a) := by
  obtain ⟨e, he⟩ := writes_of_check hcheck
  have hexecute : execute cx tokens atoms = e.outcome cx atoms := execute_of_writes hcheck he
  rw [hexecute]
  refine ⟨e, he, fun e' he' => he'.unique he, fun hnone => ?_, fun kept hkept => ?_⟩
  · exact outcome_of_without_eq_none hcx he.known hnone
  have hcheck' : check (atoms.map Prod.fst) kept.tokens = .ok () :=
    check_eq_ok.mpr ⟨kept, (he.known.without hkept).writes⟩
  refine ⟨hcheck', ?_, exists_outcome_iff hcx hkept⟩
  rw [execute_of_writes hcheck' (he.known.without hkept).writes, bare_outcome, bare_outcome,
    bare_value_without hcx he.known, hkept]
  rfl

/-- A lenient context in which a scope of two open files can be referred to. -/
def openFilesContext : Context where
  catalog := { records := [
    ⟨{ refId := "open", displayName := "Open", kind := .provider, shape := .snapshot },
      .snapshot "Open" ["a", "b"]⟩] }
  workspace :=
    { files := [], modules := [], urls_nodup := List.nodup_nil, names_nodup := List.nodup_nil }
  policy := .lenient

/-- An atom that is skipped, one that is replaced by the empty scope, and the open files. -/
def openFilesAtoms : AtomMap :=
  [("gone", { id := "gone", refId? := some "x", onFailure? := some .skip }),
    ("lost", { id := "lost", refId? := some "y" }),
    ("open", { id := "open", refId? := some "open", onFailure? := some .fail })]

/-- Of `¬(gone ∨ open) ∧ (lost ∨ ¬gone)` without what is skipped `¬open ∧ lost` is left. Open files
have no complement, so both programs stand for nothing but the empty scope, twice. -/
theorem execute_without_gone :
    let tokens : List Token :=
      [.ofAtom "gone", .ofAtom "open", ⟨.or, none⟩, ⟨.not, none⟩, .ofAtom "lost",
        .ofAtom "gone", ⟨.not, none⟩, ⟨.or, none⟩, ⟨.and, some "idle"⟩]
    let kept : Expr := .binary .and (.not (.atom "open")) (.atom "lost")
    openFilesContext.Forgiving ∧ check (openFilesAtoms.map Prod.fst) tokens = .ok () ∧
      (execute openFilesContext tokens openFilesAtoms).map Resolved.bare =
        (execute openFilesContext kept.tokens openFilesAtoms).map Resolved.bare ∧
      ∃ scope, execute openFilesContext tokens openFilesAtoms = .ok scope ∧
        scope.displayName = "Intersection of Empty scope and Empty scope" := by
  intro tokens kept
  have hcx : openFilesContext.Forgiving := ⟨rfl, by decide⟩
  have hcheck : check (openFilesAtoms.map Prod.fst) tokens = .ok () := rfl
  obtain ⟨e, -, hunique, -, hrest⟩ :=
    execute_without_skipped openFilesContext openFilesAtoms tokens hcx hcheck
  obtain rfl := hunique (.binary .and (.not (.binary .or (.atom "gone") (.atom "open")))
    (.binary .or (.atom "lost") (.not (.atom "gone"))))
    ⟨by decide, by simp [Expr.Known, Expr.atomIds, openFilesAtoms]⟩
  obtain ⟨-, hsame, -⟩ := hrest kept (by decide)
  exact ⟨hcx, hcheck, hsame, _, rfl, rfl⟩

end Program

end ScopeAlgebra
