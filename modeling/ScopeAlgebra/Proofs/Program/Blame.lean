import ScopeAlgebra.Proofs.Noted
import ScopeAlgebra.Proofs.Program.Check
import ScopeAlgebra.Proofs.Program.Evaluation

/-!
# What stops a program

A program stops at a token that does not fit, at a negation that is refused, or at an atom that has
no value (`fault_of_run`). The value of an atom does not depend on the program around it, so an atom
that stops one program stops the one that pushes nothing else as well (`evaluate_ofAtom_eq_error`).
-/

namespace ScopeAlgebra

/-- Ids that are repeated are a structural error. -/
theorem family_of_checkDistinct {atoms : List Atom} {err : EngineError}
    (h : checkDistinct atoms = .error err) : err.family = .structural := by
  unfold checkDistinct at h
  split at h
  · cases h
    rfl
  · contradiction

namespace Program

variable {cx : Context} {atoms : AtomMap} {index : Nat} {stack : List Value} {t : Token}
  {tokens : List Token} {a : Atom} {err : EngineError}

/-- Why a program stops: its structure, a negation, or the value of an atom that it pushes. -/
inductive Fault (cx : Context) (atoms : AtomMap) (err : EngineError) : Prop where
  | structural (h : err.family = .structural)
  | negation (h : err.family = .negation)
  | atom {id : String} {a : Atom} (hlookup : atoms.lookup id = some a)
    (hvalue : valueOf cx a = .error err)

/-! ## Atoms -/

/-- The error of an atom names the atom, and says that it is malformed or does not resolve. -/
theorem valueOf_eq_error (h : valueOf cx a = .error err) :
    err.atomId? = some a.id ∧ (err.family = .invalidAtom ∨ err.family = .resolution) := by
  rw [valueOf_eq_leafValue] at h
  unfold leafValue at h
  split at h
  · contradiction
  · cases h
    exact ⟨rfl, .inl rfl⟩
  · split at h <;> cases h
    · exact ⟨rfl, .inr rfl⟩
    · exact ⟨rfl, .inr rfl⟩

/-! ## One token -/

/-- A push fails for its token or for the value of its atom. -/
theorem fault_of_pushed (h : pushed cx atoms index t = .error err) : Fault cx atoms err := by
  unfold pushed at h
  split at h
  · cases h
    exact .structural rfl
  · split at h
    · cases h
      exact .structural rfl
    next hlookup => exact .atom hlookup h

/-- A negation fails only for the shape of its operand: the complement that it asks for is never
refused. -/
theorem family_of_negate {v : Value} (h : negate cx index v = .error err) :
    err.family = .negation := by
  cases v with
  | none => contradiction
  | some operand =>
    rw [negate_some] at h
    split at h
    · contradiction
    · split at h
      · cases h
        rfl
      · contradiction

/-- A single token stops a program by one of the faults. -/
theorem fault_of_step (h : step cx atoms index t stack = .error err) : Fault cx atoms err := by
  obtain ⟨op, atomId?⟩ := t
  cases op with
  | push => exact fault_of_pushed (Noted.onValue_eq_error.mp h)
  | and | or =>
    match stack, h with
    | [], h | [_], h =>
      cases h
      exact .structural rfl
    | _ :: _ :: _, h => contradiction
  | not =>
    match stack, h with
    | [], h =>
      cases h
      exact .structural rfl
    | operand :: rest, h => exact .negation (family_of_negate (Noted.onValue_eq_error.mp h))

/-! ## Whole programs -/

/-- A program that stops while it runs does so by one of the faults. -/
theorem fault_of_run (h : run cx atoms index stack tokens = .error err) : Fault cx atoms err := by
  -- The first token stops the program, or the rest does on the stack that it leaves.
  induction tokens generalizing index stack with
  | nil => contradiction
  | cons t rest ih =>
    rcases Noted.andThen_eq_error.mp h with hstep | ⟨stack', _, -, hrest⟩
    · exact fault_of_step hstep
    · exact ih hrest

/-- A program fails because it is not well formed, because it leaves nothing, or while it runs. -/
theorem run_of_evaluate_eq_error {given : List Atom} (h : evaluate cx tokens given = .error err) :
    err.family = .structural ∨ err = .emptyExpression ∨
      run cx (given.map fun a => (a.id, a)) 0 [] tokens = .error err := by
  -- The program is checked in three stages before it gives a result: ids, structure and the run
  -- itself.
  rcases bind_eq_error.mp h with hdistinct | ⟨_, -, hexecute⟩
  · exact .inl (family_of_checkDistinct hdistinct)
  · rcases bind_eq_error.mp hexecute with hcheck | ⟨_, -, hrest⟩
    · exact .inl (check_eq_error hcheck).1
    · rcases bind_eq_error.mp hrest with hrun | ⟨⟨stack, notes⟩, -, hresult⟩
      · exact .inr (.inr hrun)
      · have hresult : resultOf notes stack = .error err := hresult
        unfold resultOf at hresult
        split at hresult
        · contradiction
        · cases hresult
          exact .inr (.inl rfl)
        · cases hresult
          exact .inl rfl

/-- A program over atoms with distinct ids stops at a fault, or runs to the end and leaves
nothing. -/
theorem evaluate_eq_error {given : List Atom} (h : evaluate cx tokens given = .error err) :
    err = .emptyExpression ∨ Fault cx (given.map fun a => (a.id, a)) err := by
  rcases run_of_evaluate_eq_error h with hstructural | hempty | hrun
  · exact .inr (.structural hstructural)
  · exact .inl hempty
  · exact .inr (fault_of_run hrun)

/-! ## Programs of one atom -/

/-- A single push is well formed. -/
theorem check_ofAtom {id : String} (hid : id ≠ "") : check [id] [Token.ofAtom id] = .ok () :=
  check_eq_ok.mpr ⟨.atom id, rfl, (Expr.known_atom _ _).mpr ⟨hid, List.mem_singleton_self id⟩⟩

/-- A program that pushes a single atom stands for what the atom does. -/
theorem evaluate_ofAtom_eq_outcome (hid : a.id ≠ "") :
    evaluate cx [Token.ofAtom a.id] [a] = Expr.outcome cx [(a.id, a)] (.atom a.id) := by
  have hwrites : Writes [a.id] (.atom a.id) [Token.ofAtom a.id] :=
    ⟨rfl, (Expr.known_atom _ _).mpr ⟨hid, List.mem_singleton_self a.id⟩⟩
  exact execute_of_writes (check_ofAtom hid) hwrites

/-- An atom without a value stops the program that pushes nothing else. -/
theorem evaluate_ofAtom_eq_error (hid : a.id ≠ "") (h : valueOf cx a = .error err) :
    evaluate cx [Token.ofAtom a.id] [a] = .error err := by
  have hvalue : Expr.value cx [(a.id, a)] 0 (.atom a.id) = .error err := by
    rw [valueOf_eq_leafValue] at h
    simp [Expr.value, h]
  rw [evaluate_ofAtom_eq_outcome hid, Expr.outcome, hvalue]

end Program

end ScopeAlgebra
