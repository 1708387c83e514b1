import ScopeAlgebra.Program.Machine
import ScopeAlgebra.Proofs.Program.Expr

/-!
# The stack machine evaluates expressions

`Expr.value` evaluates an expression by recursion from left to right, and `Expr.outcome` is the
scope it stands for. `execute_of_writes` says that executing a program that the check accepts gives
the outcome of the expression whose postfix form it is, and `family_outcome` that no outcome fails
for a reason that the check excludes.
-/

namespace ScopeAlgebra.Program

variable (cx : Context) (atoms : AtomMap)

/-- The value of an atom: its predicate, or what its failure mode puts in place of one that does not
resolve. -/
def leafValue (a : Atom) : Noted Value :=
  match a.resolve cx.catalog cx.workspace cx.allowInteractive with
  | .ok p => .plain (some p)
  | .error (.missing kind payload) => .error (.missingPayload a.id kind payload)
  | .error (.unresolved cause) =>
    match cx.policy, a.onFailure?.getD cx.failureMode with
    | .strict, _ | .lenient, .fail => .error (.unresolved a.id cause)
    | .lenient, .emptyScope => .withNote (some .nothing) (replacedMessage cause "EMPTY_SCOPE")
    | .lenient, .skip => .withNote none (replacedMessage cause "SKIP")

/-- The value of a negation whose token has the given index. An operand without a complement aborts
under the strict policy or when failures do, and is replaced otherwise. -/
def complementValue (index : Nat) : Value → Noted Value
  | none => .withNote none (skippedMessage index)
  | some p =>
    match p.shape, cx.policy, cx.failureMode with
    | .global, _, _ => .plain (some (.compl p))
    | shape, .strict, _ | shape, .lenient, .fail => .error (.notGlobal index shape)
    | shape, .lenient, _ => .withNote (some .nothing) (emptiedMessage index shape)

/-- The predicate that a connective makes of two. -/
def Connective.predicate : Connective → Predicate → Predicate → Predicate
  | .and => .inter
  | .or => .union

/-- The value of an expression whose first token has the given index. -/
def Expr.value : (index : Nat) → Expr → Noted Value
  | index, .atom id =>
    match atoms.lookup id with
    | none => .error (.unknownAtom index id)
    | some a => leafValue cx a
  | index, .binary c left right =>
    (left.value index).andThen fun x =>
      (right.value (index + left.tokens.length)).andThen fun y =>
        match x, y with
        | none, y => .plain y
        | x, none => .plain x
        | some p, some q => .plain (some (c.predicate p q))
  | index, .not operand =>
    (operand.value index).andThen (complementValue cx (index + operand.tokens.length))

/-- The scope that an expression stands for, its notes each once. -/
def Expr.outcome (e : Expr) : Except EngineError Resolved :=
  match e.value cx atoms 0 with
  | .error err => .error err
  | .ok (none, _) => .error .emptyExpression
  | .ok (some p, notes) => .ok ⟨p, p.displayName, p.shape, mergeDiagnostics [notes]⟩

/-! ## One token -/

variable {cx atoms}

/-- The id that an operation carries along does not matter. -/
theorem step_bareToken (index : Nat) (t : Token) (stack : List Value) :
    step cx atoms index (bareToken t) stack = step cx atoms index t stack := by
  obtain ⟨op, atomId?⟩ := t
  cases op with
  | push => rfl
  | and | or =>
    match stack with
    | [] | [_] | _ :: _ :: _ => rfl
  | not =>
    match stack with
    | [] | _ :: _ => rfl

/-- Looking an atom up and falling back by its failure mode gives its value. -/
theorem valueOf_eq_leafValue (a : Atom) : valueOf cx a = leafValue cx a := by
  cases hresolve : a.resolve cx.catalog cx.workspace cx.allowInteractive with
  | ok p => simp only [valueOf, leafValue, hresolve]
  | error e =>
    cases e with
    | missing kind payload => simp only [valueOf, leafValue, hresolve, EngineError.ofAtom]
    | unresolved cause =>
      simp only [valueOf, leafValue, hresolve, substitute]
      -- Two policies and three modes, of which the mode matters under the lenient policy only.
      cases hpolicy : cx.policy <;> cases hmode : a.onFailure?.getD cx.failureMode <;>
        simp [hmode, FailureMode.effective, Policy.aborts]

/-- Negating a value gives the value of its complement. -/
theorem negate_eq_complementValue (index : Nat) (v : Value) :
    negate cx index v = complementValue cx index v := by
  rcases v with _ | p
  · rfl
  · rw [negate_some]
    simp only [complementValue]
    generalize p.shape = shape
    cases shape <;> cases cx.policy <;> cases cx.failureMode <;> rfl

/-! ## Whole programs -/

/-- The ids that operations carry along do not matter. -/
theorem run_bareTokens (index : Nat) (tokens : List Token) (stack : List Value) :
    run cx atoms index stack (tokens.map bareToken) = run cx atoms index stack tokens := by
  induction tokens generalizing index stack with
  | nil => rfl
  | cons t rest ih => simp only [List.map_cons, run, step_bareToken, ih]

/-- Running one token that gives a value, and the tokens behind it. -/
theorem run_cons_onValue {index : Nat} {t : Token} {stack : List Value} {v : Noted Value}
    {under : List Value} (h : step cx atoms index t stack = v.onValue (· :: under))
    (rest : List Token) :
    run cx atoms index stack (t :: rest) =
      v.andThen fun v => run cx atoms (index + 1) (v :: under) rest := by
  rw [run, h, Noted.onValue, Noted.andThen_assoc]
  simp only [Noted.plain_andThen]

/-- The tokens of an expression leave its value on the stack. -/
theorem run_tokens (e : Expr) (index : Nat) (stack : List Value) (rest : List Token) :
    run cx atoms index stack (e.tokens ++ rest) =
      (e.value cx atoms index).andThen fun v =>
        run cx atoms (index + e.tokens.length) (v :: stack) rest := by
  -- The induction is over the expression, with the stack below it and the tokens behind it as
  -- parameters.
  induction e generalizing index stack rest with
  | atom id =>
    refine run_cons_onValue (v := Expr.value cx atoms index (.atom id)) ?_ rest
    simp only [Token.ofAtom, step, pushed, Expr.value]
    cases atoms.lookup id with
    | none => rfl
    | some a => simp only [valueOf_eq_leafValue]
  | binary c left right ihl ihr =>
    -- Both sides run the operands in order; what differs is how the two values are joined.
    simp only [Expr.tokens, List.append_assoc, ihl, ihr, Expr.value, Noted.andThen_assoc]
    congr 1
    funext x
    congr 1
    funext y
    rcases x with _ | p <;> rcases y with _ | q <;> cases c <;>
      simp [run, step, join, Connective.op, Connective.predicate, Nat.add_assoc]
  | not operand ih =>
    simp only [Expr.tokens, List.append_assoc, ih, Expr.value, Noted.andThen_assoc]
    congr 1
    funext x
    rw [List.singleton_append,
      run_cons_onValue (by simp only [step, negate_eq_complementValue]; rfl)]
    simp [Nat.add_assoc]

/-- A program that is the postfix form of an expression leaves the value of the expression. -/
theorem run_of_writes {ids : List String} {e : Expr} {tokens : List Token}
    (h : Writes ids e tokens) : run cx atoms 0 [] tokens = (e.value cx atoms 0).onValue ([·]) := by
  rw [← run_bareTokens, h.tokens_eq, ← List.append_nil e.tokens, run_tokens]
  rfl

/-! ## Contexts that resolve alike -/

/-- Contexts in which every atom resolves alike and failures are treated alike. -/
structure Context.Alike (cx cx' : Context) : Prop where
  resolve : ∀ a : Atom, a.resolve cx.catalog cx.workspace cx.allowInteractive =
    a.resolve cx'.catalog cx'.workspace cx'.allowInteractive
  policy : cx.policy = cx'.policy
  failureMode : cx.failureMode = cx'.failureMode

section Alike

variable {cx' : Context} (h : cx.Alike cx')

include h

/-- An atom has the same value in contexts that resolve alike. -/
theorem Context.Alike.valueOf_eq (a : Atom) : valueOf cx a = valueOf cx' a := by
  have hsubstitute (cause : Unresolved) : substitute cx a cause = substitute cx' a cause := by
    rw [substitute, substitute, h.policy, h.failureMode]
  rw [valueOf, valueOf, h.resolve a]
  rcases a.resolve cx'.catalog cx'.workspace cx'.allowInteractive with (_ | cause) | p
  · rfl
  · exact hsubstitute cause
  · rfl

/-- A negation has the same value in contexts that resolve alike. -/
theorem Context.Alike.negate_eq (index : Nat) (v : Value) :
    negate cx index v = negate cx' index v := by
  cases v with
  | none => rfl
  | some operand => rw [negate, negate, h.policy, h.failureMode]

/-- A token does the same to a stack in contexts that resolve alike. -/
theorem Context.Alike.step_eq (index : Nat) (t : Token) (stack : List Value) :
    step cx atoms index t stack = step cx' atoms index t stack := by
  have hpushed : pushed cx atoms index t = pushed cx' atoms index t := by
    simp only [pushed, h.valueOf_eq]
  obtain ⟨op, atomId?⟩ := t
  cases op with
  | push => exact congrArg (fun v => v.onValue (· :: stack)) hpushed
  | and | or =>
    match stack with
    | [] | [_] | _ :: _ :: _ => rfl
  | not =>
    match stack with
    | [] => rfl
    | operand :: rest => exact congrArg (fun v => v.onValue (· :: rest)) (h.negate_eq index operand)

/-- A program does the same to a stack in contexts that resolve alike. -/
theorem Context.Alike.run_eq (index : Nat) (stack : List Value) (tokens : List Token) :
    run cx atoms index stack tokens = run cx' atoms index stack tokens := by
  induction tokens generalizing index stack with
  | nil => rfl
  | cons t rest ih =>
    rw [run, run, h.step_eq index t stack]
    congr 1
    funext stack'
    exact ih (index + 1) stack'

/-- A program has the same result in contexts that resolve alike. -/
theorem Context.Alike.evaluate_eq (tokens : List Token) (atoms : List Atom) :
    evaluate cx tokens atoms = evaluate cx' tokens atoms := by
  rw [evaluate, evaluate, execute, execute, h.run_eq]

end Alike

/-! ## Errors of known expressions -/

/-- The value of an atom fails for the atom's sake. -/
theorem family_leafValue {a : Atom} {err : EngineError} (h : leafValue cx a = .error err) :
    err.family ≠ .structural := by
  unfold leafValue at h
  split at h
  · contradiction
  · cases h
    simp [EngineError.family]
  · split at h <;> cases h <;> simp [EngineError.family]

/-- A complement fails because its operand is not global. -/
theorem family_complementValue {index : Nat} {v : Value} {err : EngineError}
    (h : complementValue cx index v = .error err) : err.family ≠ .structural := by
  unfold complementValue at h
  split at h
  · contradiction
  · split at h <;> cases h <;> simp [EngineError.family]

/-- An expression over known atoms never fails for the structure of a program. -/
theorem family_value {e : Expr} (hknown : e.Known (atoms.map Prod.fst)) {index : Nat}
    {err : EngineError} (h : e.value cx atoms index = .error err) : err.family ≠ .structural := by
  induction e generalizing index with
  | atom id =>
    rw [Expr.value] at h
    split at h
    next hnone =>
      -- A known atom is found, so looking it up does not fail.
      obtain ⟨entry, hentry, rfl⟩ := List.mem_map.mp ((Expr.known_atom ..).mp hknown).2
      simpa using List.lookup_eq_none_iff.mp hnone entry hentry
    · exact family_leafValue h
  | binary c left right ihl ihr =>
    obtain ⟨hl, hr⟩ := (Expr.known_binary ..).mp hknown
    rw [Expr.value, Noted.andThen_eq_error] at h
    -- The operands fail first, from left to right; joining them does not fail.
    obtain h | ⟨x, _, -, h⟩ := h
    · exact ihl hl h
    · obtain h | ⟨y, _, -, h⟩ := Noted.andThen_eq_error.mp h
      · exact ihr hr h
      · split at h <;> contradiction
  | not operand ih =>
    rw [Expr.value, Noted.andThen_eq_error] at h
    obtain h | ⟨x, _, -, h⟩ := h
    · exact ih ((Expr.known_not ..).mp hknown) h
    · exact family_complementValue h

/-! ## Executing checked programs -/

/-- Executing a program that is accepted and is the postfix form of an expression gives its
outcome. -/
theorem execute_of_writes {e : Expr} {tokens : List Token}
    (hcheck : check (atoms.map Prod.fst) tokens = .ok ())
    (h : Writes (atoms.map Prod.fst) e tokens) : execute cx tokens atoms = e.outcome cx atoms := by
  rw [execute, hcheck, run_of_writes h, Expr.outcome]
  rcases e.value cx atoms 0 with err | ⟨v, notes⟩
  · rfl
  · rcases v with _ | p <;> simp [Noted.onValue, Noted.andThen, Noted.plain, bind,
      Except.bind, resultOf, mergeDiagnostics]

/-- The outcome of an expression over known atoms fails for no structural reason. -/
theorem family_outcome {e : Expr} (hknown : e.Known (atoms.map Prod.fst)) {err : EngineError}
    (h : e.outcome cx atoms = .error err) : err.family ≠ .structural := by
  unfold Expr.outcome at h
  split at h
  next hvalue =>
    cases h
    exact family_value hknown hvalue
  · cases h
    simp [EngineError.family]
  · contradiction

/-- An accepted program is the postfix form of one expression and no other. Executing it gives the
outcome of that expression, so it never runs out of operands, meets an unknown atom or leaves more
than one value. -/
theorem execute_eq_outcome (cx : Context) (atoms : AtomMap) (tokens : List Token)
    (hcheck : check (atoms.map Prod.fst) tokens = .ok ()) :
    ∃ e, Writes (atoms.map Prod.fst) e tokens ∧
      (∀ e', Writes (atoms.map Prod.fst) e' tokens → e' = e) ∧
      execute cx tokens atoms = e.outcome cx atoms ∧
      ∀ err, execute cx tokens atoms = .error err → err.family ≠ .structural := by
  obtain ⟨e, he⟩ := writes_of_check hcheck
  have hexecute : execute cx tokens atoms = e.outcome cx atoms := execute_of_writes hcheck he
  refine ⟨e, he, fun e' he' => he'.unique he, hexecute, fun err herr => ?_⟩
  rw [hexecute] at herr
  exact family_outcome he.known herr

/-- Two atoms that do not resolve: one may be skipped, the other follows the default. -/
def unresolvable : AtomMap :=
  [("a", { id := "a", refId? := some "x", onFailure? := some .skip }),
    ("b", { id := "b", refId? := some "y" })]

/-- Of two atoms that do not resolve one is skipped and the other replaced; the negation applies to
what is left of the union. -/
theorem execute_not_of_skipped :
    let tokens : List Token := [.ofAtom "a", .ofAtom "b", ⟨.or, some "idle"⟩, ⟨.not, none⟩]
    let cx : Context := { catalog := {}, workspace := {}, policy := .lenient }
    check (unresolvable.map Prod.fst) tokens = .ok () ∧
      execute cx tokens unresolvable = .ok ⟨.compl .nothing, "Not Empty scope", .global,
        [replacedMessage (.unknownReference "x") "SKIP",
          replacedMessage (.unknownReference "y") "EMPTY_SCOPE"]⟩ := by
  intro tokens cx
  have hcheck : check (unresolvable.map Prod.fst) tokens = .ok () := rfl
  obtain ⟨e, -, hunique, hexecute, -⟩ := execute_eq_outcome cx unresolvable tokens hcheck
  have he : Expr.not (.binary .or (.atom "a") (.atom "b")) = e :=
    hunique _ ⟨by decide, by simp [Expr.Known, Expr.atomIds, unresolvable]⟩
  refine ⟨hcheck, ?_⟩
  rw [hexecute, ← he]
  rfl

end ScopeAlgebra.Program
