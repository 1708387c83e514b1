import ScopeAlgebra.Proofs.Predicate.Assembled
import ScopeAlgebra.Proofs.Program.Blame
import ScopeAlgebra.Proofs.Program.Leniency

/-!
# The shape of an evaluated program

Every value that a program leaves on the stack is assembled from what its atoms resolve to and from
the empty predicate that replaces a failure (`built_run`), so its shape is decided by these leaves.
Where all of them are global, every operand of a negation is, and no negation is refused or replaced
(`unhindered_run`).
-/

namespace ScopeAlgebra.Program

variable {cx : Context} {atoms : AtomMap} {index : Nat} {t : Token} {tokens : List Token}
  {stack stack' : List Value} {notes : Diagnostics} {v w : Value} {p : Predicate}

/-! ## What values are assembled from -/

/-- What stands at a leaf of an evaluated program: the empty predicate, or what one of the atoms
resolves to. -/
def Leaf (cx : Context) (atoms : AtomMap) (p : Predicate) : Prop :=
  p = .nothing ∨
    ∃ id a, atoms.lookup id = some a ∧ a.resolve cx.catalog cx.workspace cx.allowInteractive = .ok p

/-- A predicate that is assembled from leaves of a program. -/
def Grown (cx : Context) (atoms : AtomMap) (p : Predicate) : Prop :=
  ∃ leaves, Predicate.Assembled leaves p ∧ ∀ q ∈ leaves, Leaf cx atoms q

/-- A leaf is assembled from itself. -/
theorem grown_of_leaf (h : Leaf cx atoms p) : Grown cx atoms p :=
  ⟨[p], .leaf p, List.forall_mem_singleton.mpr h⟩

/-- A value that is assembled from leaves of a program, unless it was skipped. -/
def Built (cx : Context) (atoms : AtomMap) (v : Value) : Prop := ∀ p, v = some p → Grown cx atoms p

/-- A skipped value is built from nothing. -/
theorem built_none : Built cx atoms none := fun _ h => nomatch h

/-- A value is built when its predicate is assembled from leaves. -/
theorem built_some (h : Grown cx atoms p) : Built cx atoms (some p) := by
  intro q hq
  cases hq
  exact h

/-- Replacing a failure gives a skipped value or the empty predicate. -/
theorem built_substitute {a : Atom} {cause : Unresolved}
    (h : substitute cx a cause = .ok (v, notes)) : Built cx atoms v := by
  rw [substitute] at h
  split at h
  · contradiction
  · split at h <;> cases h
    · exact built_none
    · exact built_some (grown_of_leaf (.inl rfl))

/-- A push puts a leaf on the stack, or a skipped value. -/
theorem built_pushed (h : pushed cx atoms index t = .ok (v, notes)) : Built cx atoms v := by
  unfold pushed at h
  split at h
  · contradiction
  next id _ =>
    split at h
    · contradiction
    next a ha =>
      unfold valueOf at h
      split at h
      next p hresolve =>
        cases h
        exact built_some (grown_of_leaf (.inr ⟨id, a, ha, hresolve⟩))
      · exact built_substitute h
      · contradiction

/-- Joining keeps the leaves of both operands, or those of the one that was not skipped. -/
theorem built_join {combine : Predicate → Predicate → Predicate}
    (hcombine : ∀ {lefts rights left right}, Predicate.Assembled lefts left →
      Predicate.Assembled rights right → Predicate.Assembled (lefts ++ rights) (combine left right))
    (hv : Built cx atoms v) (hw : Built cx atoms w) : Built cx atoms (join combine v w) := by
  cases v with
  | none => exact hw
  | some left =>
    cases w with
    | none => exact hv
    | some right =>
      obtain ⟨lefts, hleft, hlefts⟩ := hv left rfl
      obtain ⟨rights, hright, hrights⟩ := hw right rfl
      exact built_some ⟨lefts ++ rights, hcombine hleft hright,
        List.forall_mem_append.mpr ⟨hlefts, hrights⟩⟩

/-- A complement has the leaves of its operand; an operand that is replaced leaves the empty
predicate. -/
theorem built_negate (hv : Built cx atoms v) (h : negate cx index v = .ok (w, notes)) :
    Built cx atoms w := by
  cases v with
  | none =>
    cases h
    exact built_none
  | some operand =>
    rw [negate_some] at h
    split at h
    next hglobal =>
      cases h
      obtain ⟨leaves, hoperand, hleaves⟩ := hv operand rfl
      exact built_some ⟨leaves, .compl hoperand (Predicate.complement_of_global hglobal), hleaves⟩
    · split at h
      · contradiction
      · cases h
        exact built_some (grown_of_leaf (.inl rfl))

/-- A token leaves assembled values on a stack of assembled values. -/
theorem built_step (hstack : ∀ v ∈ stack, Built cx atoms v)
    (h : step cx atoms index t stack = .ok (stack', notes)) : ∀ v ∈ stack', Built cx atoms v := by
  obtain ⟨op, atomId?⟩ := t
  cases op with
  | push =>
    obtain ⟨v, hv, rfl⟩ := Noted.onValue_eq_ok.mp h
    exact List.forall_mem_cons.mpr ⟨built_pushed hv, hstack⟩
  | and | or =>
    match stack, hstack, h with
    | [], _, h | [_], _, h => contradiction
    | right :: left :: rest, hstack, h =>
      cases h
      simp only [List.forall_mem_cons] at hstack ⊢
      -- The right operand lies on top of the left one.
      obtain ⟨hright, hleft, hrest⟩ := hstack
      first
      | exact ⟨built_join .inter hleft hright, hrest⟩
      | exact ⟨built_join .union hleft hright, hrest⟩
  | not =>
    match stack, hstack, h with
    | [], _, h => contradiction
    | operand :: rest, hstack, h =>
      obtain ⟨w, hw, rfl⟩ := Noted.onValue_eq_ok.mp h
      obtain ⟨hoperand, hrest⟩ := List.forall_mem_cons.mp hstack
      exact List.forall_mem_cons.mpr ⟨built_negate hoperand hw, hrest⟩

/-- All tokens of a program leave values on the stack that were built from its atoms. -/
theorem built_run (hstack : ∀ v ∈ stack, Built cx atoms v)
    (h : run cx atoms index stack tokens = .ok (stack', notes)) :
    ∀ v ∈ stack', Built cx atoms v := by
  -- The invariant is that every value on the stack is built; each token keeps it.
  induction tokens generalizing index stack notes with
  | nil =>
    cases h
    exact hstack
  | cons t rest ih =>
    obtain ⟨between, _, _, hstep, hrest, -⟩ := Noted.andThen_eq_ok.mp h
    exact ih (built_step hstack hstep) hrest

/-- The scope of a program is assembled from leaves, and shown with the shape of its predicate. -/
theorem grown_of_evaluate {given : List Atom} {scope : Resolved}
    (h : evaluate cx tokens given = .ok scope) :
    Grown cx (given.map fun a => (a.id, a)) scope.predicate ∧
      scope.shape = scope.predicate.shape := by
  obtain ⟨-, p, notes, hrun, rfl⟩ := execute_eq_ok.mp (evaluate_eq_ok.mp h).2
  exact ⟨built_run (fun _ hv => absurd hv List.not_mem_nil) hrun (some p)
    (List.mem_singleton_self _) p rfl, rfl⟩

/-! ## Negations of global operands -/

/-- The wording of a cause starts otherwise than a note on a token, which names the token. -/
theorem head?_message_ne (cause : Unresolved) (rest : String) :
    (cause.message ++ rest).toList.head? ≠ some 'T' := by
  -- Two causes take their wording from another error, the others have their own.
  cases cause
  case badPattern e =>
    show (e.message ++ rest).toList.head? ≠ some 'T'
    unfold PatternError.message
    simp
  case notInWorkspace e =>
    show (e.message ++ rest).toList.head? ≠ some 'T'
    unfold WorkspaceError.message
    split <;> simp
  all_goals
    unfold Unresolved.message
    simp

/-- No cause is worded as the note on an operand that was replaced, whatever is added behind it. -/
theorem emptiedMessage_ne_message (index : Nat) (shape : Shape) (cause : Unresolved)
    (rest : String) : emptiedMessage index shape ≠ cause.message ++ rest := by
  intro h
  have hhead : (emptiedMessage index shape).toList.head? = some 'T' := by
    simp [emptiedMessage, EngineError.tokenName]
  rw [h] at hhead
  exact head?_message_ne cause rest hhead

/-- A replaced operand is not noted as a skipped one is: the notes end differently. -/
theorem emptiedMessage_ne_skippedMessage (index index' : Nat) (shape : Shape) :
    emptiedMessage index shape ≠ skippedMessage index' := by
  intro h
  have hends := congrArg (fun text => text.toList.reverse.take 2) h
  simp [emptiedMessage, skippedMessage] at hends

/-- A result in which no negation met an operand that is not global: none was refused, and none
replaced. -/
structure Unhindered {α : Type} (x : Noted α) : Prop where
  family_ne_negation : ∀ err, x = .error err → err.family ≠ .negation
  not_emptied : ∀ a notes, x = .ok (a, notes) → ∀ index shape, emptiedMessage index shape ∉ notes

section Unhindered

variable {α β : Type}

/-- An error of another family comes from no negation. -/
theorem unhindered_error {err : EngineError} (h : err.family ≠ .negation) :
    Unhindered (.error err : Noted α) where
  family_ne_negation _ herr := by
    cases herr
    exact h
  not_emptied _ _ hok := nomatch hok

/-- A value about which nothing is noted met no negation. -/
theorem unhindered_plain (a : α) : Unhindered (.plain a) where
  family_ne_negation _ herr := nomatch herr
  not_emptied _ _ hok := by
    cases hok
    exact fun _ _ => List.not_mem_nil

/-- A note that is not the one on a replaced operand comes from no negation. -/
theorem unhindered_withNote (a : α) {note : String}
    (h : ∀ index shape, emptiedMessage index shape ≠ note) : Unhindered (.withNote a note) where
  family_ne_negation _ herr := nomatch herr
  not_emptied _ _ hok := by
    cases hok
    exact fun index shape hmem => h index shape (List.mem_singleton.mp hmem)

/-- Results one after the other are unhindered when each is, the second ones on every value that the
first gives. -/
theorem Unhindered.andThen {x : Noted α} {next : α → Noted β} (h : Unhindered x)
    (hnext : ∀ a notes, x = .ok (a, notes) → Unhindered (next a)) :
    Unhindered (x.andThen next) where
  family_ne_negation err herr := by
    rcases Noted.andThen_eq_error.mp herr with hx | ⟨a, notes, hx, herr⟩
    · exact h.family_ne_negation err hx
    · exact (hnext a notes hx).family_ne_negation err herr
  not_emptied b notes hok index shape := by
    obtain ⟨a, first, more, hx, hb, rfl⟩ := Noted.andThen_eq_ok.mp hok
    rw [List.mem_append, not_or]
    exact ⟨h.not_emptied a first hx index shape,
      (hnext a first hx).not_emptied b more hb index shape⟩

/-- Changing the value keeps a result unhindered. -/
theorem Unhindered.onValue {x : Noted α} (h : Unhindered x) (f : α → β) :
    Unhindered (x.onValue f) :=
  h.andThen fun a _ _ => unhindered_plain (f a)

end Unhindered

/-- An atom is not a negation. -/
theorem unhindered_pushed : Unhindered (pushed cx atoms index t) := by
  unfold pushed
  split
  · exact unhindered_error (by simp [EngineError.family])
  · split
    · exact unhindered_error (by simp [EngineError.family])
    next a _ =>
      unfold valueOf
      split
      · exact unhindered_plain _
      next cause _ =>
        rw [substitute]
        split
        · exact unhindered_error (by simp [EngineError.family])
        · split <;> exact unhindered_withNote _ fun _ _ => by
            rw [replacedMessage, String.append_assoc, String.append_assoc]
            exact emptiedMessage_ne_message _ _ _ _
      next err _ _ =>
        refine unhindered_error ?_
        cases err <;> simp [EngineError.ofAtom, EngineError.family]

section AllGlobal

variable (hglobal : ∀ q, Leaf cx atoms q → q.shape = .global)

include hglobal

/-- What is assembled from global leaves is global. -/
theorem Grown.shape_eq_global (h : Grown cx atoms p) : p.shape = .global := by
  obtain ⟨leaves, hp, hleaves⟩ := h
  exact (hp.shape_eq_iff (by decide)).mpr fun q hq => hglobal q (hleaves q hq)

/-- The negation of a value that is built from global leaves is neither refused nor replaced. -/
theorem unhindered_negate (hv : Built cx atoms v) : Unhindered (negate cx index v) := by
  cases v with
  | none => exact unhindered_withNote _ fun _ _ => emptiedMessage_ne_skippedMessage _ _ _
  | some operand =>
    rw [negate_some, if_pos ((hv operand rfl).shape_eq_global hglobal)]
    exact unhindered_plain _

/-- A token on a stack of values that are built from global leaves is unhindered. -/
theorem unhindered_step (hstack : ∀ v ∈ stack, Built cx atoms v) :
    Unhindered (step cx atoms index t stack) := by
  obtain ⟨op, atomId?⟩ := t
  cases op with
  | push => exact unhindered_pushed.onValue _
  | and | or =>
    rcases stack with _ | ⟨right, _ | ⟨left, rest⟩⟩
    · exact unhindered_error (by simp [EngineError.family])
    · exact unhindered_error (by simp [EngineError.family])
    · exact unhindered_plain _
  | not =>
    rcases stack with _ | ⟨operand, rest⟩
    · exact unhindered_error (by simp [EngineError.family])
    · exact (unhindered_negate hglobal (hstack operand List.mem_cons_self)).onValue _

/-- Over global leaves no negation of a program meets an operand that is not global. -/
theorem unhindered_run (hstack : ∀ v ∈ stack, Built cx atoms v) :
    Unhindered (run cx atoms index stack tokens) := by
  -- What lies on the stack stays built from leaves, and these are global.
  induction tokens generalizing index stack with
  | nil => exact unhindered_plain stack
  | cons t rest ih =>
    exact (unhindered_step hglobal hstack).andThen fun _ _ hstep => ih (built_step hstack hstep)

end AllGlobal

/-- A program over atoms that resolve to global predicates only stands for a global scope if it
stands for any; no negation is refused, or noted as replaced. -/
theorem evaluate_of_global {given : List Atom}
    (hglobal : ∀ q, Leaf cx (given.map fun a => (a.id, a)) q → q.shape = .global) :
    (∀ scope, evaluate cx tokens given = .ok scope →
      scope.shape = .global ∧ ∀ index shape, emptiedMessage index shape ∉ scope.diagnostics) ∧
    ∀ err, evaluate cx tokens given = .error err → err.family ≠ .negation := by
  have hrun : Unhindered (run cx (given.map fun a => (a.id, a)) 0 [] tokens) :=
    unhindered_run hglobal fun _ hv => absurd hv List.not_mem_nil
  constructor
  · intro scope h
    obtain ⟨hgrown, hshape⟩ := grown_of_evaluate h
    refine ⟨hshape.trans (hgrown.shape_eq_global hglobal), fun index shape => ?_⟩
    obtain ⟨-, p, notes, hok, rfl⟩ := execute_eq_ok.mp (evaluate_eq_ok.mp h).2
    rw [List.mem_eraseDups]
    exact hrun.not_emptied _ notes hok index shape
  · intro err h
    rcases run_of_evaluate_eq_error h with hstructural | rfl | herr
    · simp [hstructural]
    · simp [EngineError.family]
    · exact hrun.family_ne_negation err herr

end ScopeAlgebra.Program
