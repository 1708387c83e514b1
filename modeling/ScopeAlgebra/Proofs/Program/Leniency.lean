import ScopeAlgebra.Program.Machine
import ScopeAlgebra.Proofs.Atoms.FailureMode

/-!
# Strict and lenient evaluation

Whatever the lenient policy puts in place of a failure leaves a note, so strict evaluation matches
the one under any other policy and failure mode, token by token (`matches_step`) and program by
program (`evaluate_strict_iff`). Strict evaluation does not ask an atom for its own failure mode
either (`evaluate_strict_failing`).
-/

namespace ScopeAlgebra

variable {policy : Policy} {mode mode' : FailureMode} {modes : String → Option FailureMode}

namespace Program

/-- A context with another policy and failure mode. -/
def Context.under (cx : Context) (policy : Policy) (mode : FailureMode) : Context :=
  { cx with policy, failureMode := mode }

/-- A stack on which no value was skipped. -/
def Solid (stack : List Value) : Prop := ∀ v ∈ stack, v ≠ none

variable {cx : Context} {atoms : AtomMap} {index : Nat} {stack : List Value}

/-! ## One token -/

/-- Under the strict policy nothing stands for an atom that does not resolve. -/
theorem substitute_strict (a : Atom) (cause : Unresolved) :
    substitute (cx.under .strict mode) a cause = .error (.unresolved a.id cause) := by
  simp [substitute, Context.under, Policy.aborts]

/-- Under the strict policy only the negation of a global scope is a scope. -/
theorem negate_strict (operand : Predicate) :
    negate (cx.under .strict mode) index (some operand) =
      if operand.shape = .global then .plain (some (.compl operand))
        else .error (.notGlobal index operand.shape) := by
  simp [negate_some, Context.under, Policy.aborts]

/-- Under any other policy an atom that does not resolve is an error too, or noted. -/
theorem matches_substitute (a : Atom) (cause : Unresolved) :
    Noted.Matches (substitute (cx.under .strict mode) a cause)
      (substitute (cx.under policy mode') a cause) := by
  rw [substitute_strict, substitute]
  split
  · exact Noted.matches_error ..
  · split
    · exact Noted.matches_withNote ..
    · exact Noted.matches_withNote ..

/-- The strict value of an atom matches the one under any other policy. -/
theorem matches_valueOf (a : Atom) :
    Noted.Matches (valueOf (cx.under .strict mode) a) (valueOf (cx.under policy mode') a) := by
  -- Both contexts look the atom up in the same places.
  have hsubstitute (cause : Unresolved) :
      Noted.Matches (substitute (cx.under .strict mode) a cause)
        (substitute (cx.under policy mode') a cause) := matches_substitute a cause
  simp only [valueOf, Context.under] at hsubstitute ⊢
  rcases a.resolve cx.catalog cx.workspace cx.allowInteractive with (_ | cause) | p
  · exact Noted.matches_error ..
  · exact hsubstitute cause
  · exact Noted.matches_plain _

/-- A strict push matches the one under any other policy. -/
theorem matches_pushed (t : Token) :
    Noted.Matches (pushed (cx.under .strict mode) atoms index t)
      (pushed (cx.under policy mode') atoms index t) := by
  unfold pushed
  split
  · exact Noted.matches_error ..
  · split
    · exact Noted.matches_error ..
    · exact matches_valueOf _

/-- A strict negation matches the one under any other policy. -/
theorem matches_negate (operand : Predicate) :
    Noted.Matches (negate (cx.under .strict mode) index (some operand))
      (negate (cx.under policy mode') index (some operand)) := by
  rw [negate_strict, negate_some]
  split
  · exact Noted.matches_plain _
  · split
    · exact Noted.matches_error ..
    · exact Noted.matches_withNote ..

/-- A strict step notes nothing, and any other step that notes nothing does the same. -/
theorem matches_step (t : Token) (hsolid : Solid stack) :
    Noted.Matches (step (cx.under .strict mode) atoms index t stack)
      (step (cx.under policy mode') atoms index t stack) := by
  obtain ⟨op, atomId?⟩ := t
  cases op with
  | push => exact (matches_pushed _).onValue _
  | and | or =>
    match stack with
    | [] | [_] => exact Noted.matches_error ..
    | right :: left :: rest => exact Noted.matches_plain _
  | not =>
    -- Under the strict policy no operand of a negation was skipped.
    match stack, hsolid with
    | [], _ => exact Noted.matches_error ..
    | none :: rest, hsolid => exact absurd rfl (hsolid none List.mem_cons_self)
    | some operand :: rest, _ => exact (matches_negate operand).onValue _

variable {v : Value} {notes : Diagnostics}

/-- A strict push puts a predicate on the stack. -/
theorem pushed_ne_none {t : Token}
    (h : pushed (cx.under .strict mode) atoms index t = .ok (v, notes)) : v ≠ none := by
  unfold pushed valueOf at h
  split at h
  · contradiction
  · split at h
    · contradiction
    · split at h
      · cases h
        simp
      · simp [substitute_strict] at h
      · contradiction

/-- A strict negation puts a predicate on the stack. -/
theorem negate_ne_none {operand : Predicate}
    (h : negate (cx.under .strict mode) index (some operand) = .ok (v, notes)) : v ≠ none := by
  rw [negate_strict] at h
  split at h
  · cases h
    simp
  · contradiction

/-- A strict step leaves no skipped value. -/
theorem solid_step {t : Token} {stack' : List Value} (hsolid : Solid stack)
    (h : step (cx.under .strict mode) atoms index t stack = .ok (stack', notes)) :
    Solid stack' := by
  obtain ⟨op, atomId?⟩ := t
  cases op with
  | push =>
    obtain ⟨v, hv, rfl⟩ := Noted.onValue_eq_ok.mp h
    exact List.forall_mem_cons.mpr ⟨pushed_ne_none hv, hsolid⟩
  | and | or =>
    match stack, hsolid, h with
    | some right :: some left :: rest, hsolid, h =>
      cases h
      have hrest : Solid rest := fun v hv => hsolid v (by simp [hv])
      exact List.forall_mem_cons.mpr ⟨by simp [join], hrest⟩
    | none :: _ :: _, hsolid, _ => exact absurd rfl (hsolid none (by simp))
    | _ :: none :: _, hsolid, _ => exact absurd rfl (hsolid none (by simp))
  | not =>
    match stack, hsolid, h with
    | some operand :: rest, hsolid, h =>
      obtain ⟨v, hv, rfl⟩ := Noted.onValue_eq_ok.mp h
      have hrest : Solid rest := fun v hv => hsolid v (by simp [hv])
      exact List.forall_mem_cons.mpr ⟨negate_ne_none hv, hrest⟩
    | none :: _, hsolid, _ => exact absurd rfl (hsolid none (by simp))

/-- Strict evaluation does not look at the failure mode of an atom. -/
theorem valueOf_strict_failing (a : Atom) :
    valueOf (cx.under .strict mode) (a.failing modes) = valueOf (cx.under .strict mode') a := by
  have hsubstitute (cause : Unresolved) :
      substitute (cx.under .strict mode) (a.failing modes) cause =
        substitute (cx.under .strict mode') a cause := by
    rw [substitute_strict, substitute_strict]
    rfl
  simp only [valueOf, Context.under, Atom.resolve_failing] at hsubstitute ⊢
  rcases a.resolve cx.catalog cx.workspace cx.allowInteractive with (_ | cause) | p
  · rfl
  · exact hsubstitute cause
  · rfl

/-- An atom is found under its id, whatever failure mode it is given. -/
theorem lookup_failing (atoms : List Atom) (atomId : String) :
    (atoms.map fun a => (a.id, a.failing modes)).lookup atomId =
      ((atoms.map fun a => (a.id, a)).lookup atomId).map (Atom.failing modes) := by
  induction atoms with
  | nil => rfl
  | cons a rest ih =>
    simp only [List.map_cons, List.lookup_cons, ih]
    split <;> rfl

variable {given : List Atom}

/-- A strict push does not look at the failure modes of atoms. -/
theorem pushed_strict_failing (t : Token) :
    pushed (cx.under .strict mode) (given.map fun a => (a.id, a.failing modes)) index t =
      pushed (cx.under .strict mode') (given.map fun a => (a.id, a)) index t := by
  unfold pushed
  cases t.atomId? with
  | none => rfl
  | some atomId =>
    simp only [lookup_failing]
    cases (given.map fun a => (a.id, a)).lookup atomId with
    | none => rfl
    | some a => exact valueOf_strict_failing a

/-- A strict step does not look at the failure modes of atoms. -/
theorem step_strict_failing (t : Token) :
    step (cx.under .strict mode) (given.map fun a => (a.id, a.failing modes)) index t stack =
      step (cx.under .strict mode') (given.map fun a => (a.id, a)) index t stack := by
  obtain ⟨op, atomId?⟩ := t
  cases op with
  | push =>
    exact congrArg (fun v => v.onValue (· :: stack)) (pushed_strict_failing ⟨.push, atomId?⟩)
  | and | or =>
    match stack with
    | [] | [_] => rfl
    | right :: left :: rest => rfl
  | not =>
    match stack with
    | [] | none :: _ => rfl
    | some operand :: rest =>
      have hnegate : negate (cx.under .strict mode) index (some operand) =
          negate (cx.under .strict mode') index (some operand) := by
        rw [negate_strict, negate_strict]
      exact congrArg (fun v => v.onValue (· :: rest)) hnegate

/-! ## Whole programs -/

/-- A strict run does not look at the failure modes of atoms. -/
theorem run_strict_failing (tokens : List Token) :
    run (cx.under .strict mode) (given.map fun a => (a.id, a.failing modes)) index stack tokens =
      run (cx.under .strict mode') (given.map fun a => (a.id, a)) index stack tokens := by
  induction tokens generalizing index stack with
  | nil => rfl
  | cons t rest ih =>
    have hstep :
        step (cx.under .strict mode) (given.map fun a => (a.id, a.failing modes)) index t stack =
          step (cx.under .strict mode') (given.map fun a => (a.id, a)) index t stack :=
      step_strict_failing t
    rw [run, run, hstep]
    exact congrArg _ (funext fun _ => ih)

/-- A strict run matches the one under any other policy, from a stack without skipped values. -/
theorem matches_run (tokens : List Token) (hsolid : Solid stack) :
    Noted.Matches (run (cx.under .strict mode) atoms index stack tokens)
      (run (cx.under policy mode') atoms index stack tokens) := by
  induction tokens generalizing index stack with
  | nil => exact Noted.matches_plain stack
  -- No step leaves a skipped value, so the induction goes on with the stack behind it.
  | cons t rest ih => exact (matches_step t hsolid).andThen fun stack' h => ih (solid_step hsolid h)

variable {tokens : List Token} {scope : Resolved}

/-- A scope is what is left alone on the stack. -/
theorem resultOf_eq_ok :
    resultOf notes stack = .ok scope ↔
      ∃ p, stack = [some p] ∧ scope = ⟨p, p.displayName, p.shape, notes.eraseDups⟩ := by
  unfold resultOf
  split
  next p => simp [eq_comm]
  next => simp
  next hsome hnone =>
    simp only [reduceCtorEq, false_iff]
    rintro ⟨p, rfl, -⟩
    exact hsome p rfl

/-- A program that gives a scope is well formed and runs to the end. -/
theorem execute_eq_ok :
    execute cx tokens atoms = .ok scope ↔
      check (atoms.map Prod.fst) tokens = .ok () ∧
        ∃ p notes, run cx atoms 0 [] tokens = .ok ([some p], notes) ∧
          scope = ⟨p, p.displayName, p.shape, notes.eraseDups⟩ := by
  simp only [execute, bind_eq_ok, Prod.exists, resultOf_eq_ok]
  constructor
  · rintro ⟨⟨⟩, hcheck, stack, notes, hrun, p, rfl, hscope⟩
    exact ⟨hcheck, p, notes, hrun, hscope⟩
  · rintro ⟨hcheck, p, notes, hrun, hscope⟩
    exact ⟨(), hcheck, [some p], notes, hrun, p, rfl, hscope⟩

/-- Evaluation fails unless ids are distinct, and then executes the program. -/
theorem evaluate_eq_ok {atoms : List Atom} :
    evaluate cx tokens atoms = .ok scope ↔
      checkDistinct atoms = .ok () ∧
        execute cx tokens (atoms.map fun a => (a.id, a)) = .ok scope := by
  simp only [evaluate, bind_eq_ok]
  exact ⟨fun ⟨(), hdistinct, h⟩ => ⟨hdistinct, h⟩, fun ⟨hdistinct, h⟩ => ⟨(), hdistinct, h⟩⟩

/-- Strict evaluation asks neither an atom nor the context for a failure mode. -/
theorem evaluate_strict_failing (atoms : List Atom) :
    evaluate (cx.under .strict mode) tokens (atoms.map (Atom.failing modes)) =
      evaluate (cx.under .strict mode') tokens atoms := by
  have hmap : (atoms.map (Atom.failing modes)).map (fun a => (a.id, a)) =
      atoms.map fun a => (a.id, a.failing modes) := List.map_map
  have hkeys : (atoms.map fun a => (a.id, a.failing modes)).map Prod.fst =
      (atoms.map fun a => (a.id, a)).map Prod.fst := by
    rw [List.map_map, List.map_map]
    rfl
  have hrun : run (cx.under .strict mode) (atoms.map fun a => (a.id, a.failing modes)) 0 [] tokens =
      run (cx.under .strict mode') (atoms.map fun a => (a.id, a)) 0 [] tokens :=
    run_strict_failing tokens
  rw [evaluate, evaluate, checkDistinct_failing, hmap, execute, execute, hkeys, hrun]

/-- A program gives a scope strictly exactly when it gives it under any other policy without a
note. -/
theorem evaluate_strict_iff {atoms : List Atom} :
    evaluate (cx.under .strict mode) tokens atoms = .ok scope ↔
      evaluate (cx.under policy mode') tokens atoms = .ok scope ∧ scope.diagnostics = [] := by
  have hrun : Noted.Matches (run (cx.under .strict mode) (atoms.map fun a => (a.id, a)) 0 [] tokens)
      (run (cx.under policy mode') (atoms.map fun a => (a.id, a)) 0 [] tokens) :=
    matches_run tokens (by simp [Solid])
  simp only [evaluate_eq_ok, execute_eq_ok, hrun.eq_ok_iff]
  constructor
  · rintro ⟨hdistinct, hcheck, p, notes, ⟨h, rfl⟩, rfl⟩
    exact ⟨⟨hdistinct, hcheck, p, [], h, rfl⟩, List.eraseDups_nil⟩
  · rintro ⟨⟨hdistinct, hcheck, p, notes, h, rfl⟩, hnotes⟩
    exact ⟨hdistinct, hcheck, p, notes, ⟨h, eraseDups_eq_nil_iff.mp hnotes⟩, rfl⟩

end Program

end ScopeAlgebra
