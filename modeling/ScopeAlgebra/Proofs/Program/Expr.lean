import ScopeAlgebra.Program.Check

/-!
# Programs as expressions

A well-formed program is an expression over atoms, written in postfix order. `Expr.tokens` writes an
expression, `Writes` says that a list of tokens is its postfix form, `writes_of_check` finds the
expression of every program that the check accepts, and `Writes.unique` says that there is no other.
-/

namespace ScopeAlgebra.Program

/-- The operations that join two operands. -/
inductive Connective where
  | and
  | or
  deriving DecidableEq, Repr

/-- The operation of a connective's token. -/
def Connective.op : Connective → ProgramOp
  | .and => .and
  | .or => .or

/-- An expression over the atoms of a request. -/
inductive Expr where
  | atom (id : String)
  | binary (c : Connective) (left right : Expr)
  | not (operand : Expr)
  deriving DecidableEq, Repr

namespace Expr

/-- The tokens of an expression: operands in order, then the operation. -/
def tokens : Expr → List Token
  | .atom id => [Token.ofAtom id]
  | .binary c left right => left.tokens ++ right.tokens ++ [⟨c.op, none⟩]
  | .not operand => operand.tokens ++ [⟨.not, none⟩]

/-- The ids that an expression names, from left to right. -/
def atomIds : Expr → List String
  | .atom id => [id]
  | .binary _ left right => left.atomIds ++ right.atomIds
  | .not operand => operand.atomIds

/-- Every leaf of an expression names one of the given atoms, by an id that is not empty. -/
def Known (ids : List String) (e : Expr) : Prop := ∀ id ∈ e.atomIds, id ≠ "" ∧ id ∈ ids

/-- An atom is known when its id is not empty and among the given ones. -/
@[simp] theorem known_atom (ids : List String) (id : String) :
    (atom id).Known ids ↔ id ≠ "" ∧ id ∈ ids := by
  simp [Known, atomIds]

/-- An operation on two operands is known when both of them are. -/
@[simp] theorem known_binary (ids : List String) (c : Connective) (left right : Expr) :
    (binary c left right).Known ids ↔ left.Known ids ∧ right.Known ids := List.forall_mem_append

/-- A negation is known when its operand is. -/
@[simp] theorem known_not (ids : List String) (operand : Expr) :
    (not operand).Known ids ↔ operand.Known ids := Iff.rfl

end Expr

/-- A token without the id that an operation may carry but does not use. -/
def bareToken (t : Token) : Token :=
  match t.op with
  | .push => t
  | op => ⟨op, none⟩

/-- A list of tokens is the postfix form of an expression over the given atoms. -/
structure Writes (ids : List String) (e : Expr) (tokens : List Token) : Prop where
  tokens_eq : tokens.map bareToken = e.tokens
  known : e.Known ids

/-- The tokens of an expression carry nothing that is not used. -/
theorem Expr.map_bareToken_tokens (e : Expr) : e.tokens.map bareToken = e.tokens := by
  induction e with
  | atom id => rfl
  | binary c left right ihl ihr =>
    rw [tokens, List.map_append, List.map_append, ihl, ihr]
    cases c <;> rfl
  | not operand ih =>
    rw [tokens, List.map_append, ih]
    rfl

/-- An expression over the given atoms is written by its own tokens. -/
theorem Expr.Known.writes {ids : List String} {e : Expr} (h : e.Known ids) :
    Writes ids e e.tokens :=
  ⟨e.map_bareToken_tokens, h⟩

/-! ## What the check accepts -/

variable {ids : List String} {index height height' : Nat}

/-- A push is accepted when it names a known atom. -/
theorem heightAfter_push {atomId? : Option String} :
    heightAfter ids index ⟨.push, atomId?⟩ height = .ok height' ↔
      (∃ id, atomId? = some id ∧ id ≠ "" ∧ id ∈ ids) ∧ height' = height + 1 := by
  rcases atomId? with _ | id
  · simp [heightAfter]
  · by_cases hempty : id = ""
    · simp [heightAfter, hempty]
    · by_cases hmem : id ∈ ids
      · simp [heightAfter, hempty, hmem, Eq.comm (a := height')]
      · simp [heightAfter, hempty, hmem]

/-- An operation is accepted when the stack holds its operands. -/
theorem heightAfter_operation {op : ProgramOp} {atomId? : Option String} (hop : op ≠ .push) :
    heightAfter ids index ⟨op, atomId?⟩ height = .ok height' ↔
      op.arity ≤ height ∧ height' = height - (op.arity - 1) := by
  have hunfold : heightAfter ids index ⟨op, atomId?⟩ height =
      if height < op.arity then .error (.tooFewOperands index op height)
      else .ok (height - (op.arity - 1)) := by
    cases op <;> first | contradiction | rfl
  rw [hunfold]
  split
  · simp only [reduceCtorEq, false_iff]
    omega
  · simp only [Except.ok.injEq]
    omega

/-! ## The expression of a program

The check follows the height of a stack. The expressions that would be on it, written one after the
other, are the tokens read so far. -/

/-- The tokens of the expressions on a stack, whose top is written last. -/
def stackTokens : List Expr → List Token
  | [] => []
  | e :: rest => stackTokens rest ++ e.tokens

/-- What an accepted connective does to a stack of expressions. -/
theorem stack_of_connective {c : Connective} {atomId? : Option String} {stack : List Expr}
    (h : heightAfter ids index ⟨c.op, atomId?⟩ stack.length = .ok height)
    (hknown : ∀ e ∈ stack, e.Known ids) :
    ∃ stack' : List Expr, stack'.length = height ∧ (∀ e ∈ stack', e.Known ids) ∧
      stackTokens stack' = stackTokens stack ++ [⟨c.op, none⟩] := by
  have harity : c.op.arity = 2 := by cases c <;> rfl
  obtain ⟨hle, rfl⟩ := (heightAfter_operation (by cases c <;> decide)).mp h
  rw [harity] at hle ⊢
  match stack, hle with
  | right :: left :: rest, _ =>
    refine ⟨.binary c left right :: rest, rfl, ?_, by simp [stackTokens, Expr.tokens]⟩
    simp only [List.forall_mem_cons] at hknown ⊢
    exact ⟨(Expr.known_binary ..).mpr ⟨hknown.2.1, hknown.1⟩, hknown.2.2⟩

/-- What an accepted token does to a stack of expressions. -/
theorem stack_of_heightAfter {t : Token} {stack : List Expr}
    (h : heightAfter ids index t stack.length = .ok height) (hknown : ∀ e ∈ stack, e.Known ids) :
    ∃ stack' : List Expr, stack'.length = height ∧ (∀ e ∈ stack', e.Known ids) ∧
      stackTokens stack' = stackTokens stack ++ [bareToken t] := by
  obtain ⟨op, atomId?⟩ := t
  cases op with
  | push =>
    obtain ⟨⟨id, rfl, hid⟩, rfl⟩ := heightAfter_push.mp h
    refine ⟨.atom id :: stack, rfl, ?_, rfl⟩
    simpa [hid] using hknown
  | and => exact stack_of_connective (c := .and) h hknown
  | or => exact stack_of_connective (c := .or) h hknown
  | not =>
    obtain ⟨hle, rfl⟩ := (heightAfter_operation (by decide)).mp h
    match stack, hle with
    | operand :: rest, _ =>
      refine ⟨.not operand :: rest, rfl, ?_, by simp [stackTokens, Expr.tokens, bareToken]⟩
      simp only [List.forall_mem_cons] at hknown ⊢
      exact ⟨(Expr.known_not ..).mpr hknown.1, hknown.2⟩

/-- What accepted tokens do to a stack of expressions. -/
theorem stack_of_finalHeight {tokens : List Token} {stack : List Expr}
    (h : finalHeight ids index stack.length tokens = .ok height)
    (hknown : ∀ e ∈ stack, e.Known ids) :
    ∃ stack' : List Expr, stack'.length = height ∧ (∀ e ∈ stack', e.Known ids) ∧
      stackTokens stack' = stackTokens stack ++ tokens.map bareToken := by
  -- What is on the stack always writes the tokens read so far, and each token keeps it so.
  induction tokens generalizing index stack with
  | nil =>
    cases h
    exact ⟨stack, rfl, hknown, by simp⟩
  | cons t rest ih =>
    cases hstep : heightAfter ids index t stack.length with
    | error e => simp [finalHeight, hstep, bind, Except.bind] at h
    | ok between =>
      obtain ⟨stack₁, rfl, hknown₁, htokens₁⟩ := stack_of_heightAfter hstep hknown
      have hrest : finalHeight ids (index + 1) stack₁.length rest = .ok height := by
        simpa [finalHeight, hstep, bind, Except.bind] using h
      obtain ⟨stack₂, hlength, hknown₂, htokens₂⟩ := ih hrest hknown₁
      refine ⟨stack₂, hlength, hknown₂, ?_⟩
      rw [htokens₂, htokens₁, List.map_cons, List.append_assoc, List.singleton_append]

/-- A program that the check accepts is the postfix form of an expression. -/
theorem writes_of_check {tokens : List Token} (h : check ids tokens = .ok ()) :
    ∃ e, Writes ids e tokens := by
  unfold check at h
  split at h
  · contradiction
  · cases hfinal : finalHeight ids 0 0 tokens with
    | error e => simp [hfinal, bind, Except.bind] at h
    | ok height =>
      have hstart : finalHeight ids 0 ([] : List Expr).length tokens = .ok height := hfinal
      obtain ⟨stack, hlength, hknown, htokens⟩ := stack_of_finalHeight hstart (by simp)
      -- Only a height of one passes the last test.
      have hone : height = 1 := by
        by_cases hone : height = 1
        · exact hone
        · simp [hfinal, bind, Except.bind, hone] at h
      obtain ⟨e, rfl⟩ := List.length_eq_one_iff.mp (hlength.trans hone)
      exact ⟨e, by simpa [stackTokens] using htokens.symm, hknown e (by simp)⟩

/-! ## No program has two expressions -/

/-- Reads expressions back from tokens onto a stack. -/
def readBack : List Expr → List Token → List Expr
  | right :: left :: stack, ⟨.and, _⟩ :: rest => readBack (.binary .and left right :: stack) rest
  | right :: left :: stack, ⟨.or, _⟩ :: rest => readBack (.binary .or left right :: stack) rest
  | operand :: stack, ⟨.not, _⟩ :: rest => readBack (.not operand :: stack) rest
  | stack, ⟨.push, some id⟩ :: rest => readBack (.atom id :: stack) rest
  | stack, _ => stack

/-- The tokens of an expression are read back as the expression. -/
theorem readBack_tokens (e : Expr) (stack : List Expr) (rest : List Token) :
    readBack stack (e.tokens ++ rest) = readBack (e :: stack) rest := by
  -- The operands are read back first, and the operation finds them on top of the stack.
  induction e generalizing stack rest with
  | atom id => simp [Expr.tokens, Token.ofAtom, readBack]
  | binary c left right ihl ihr =>
    simp only [Expr.tokens, List.append_assoc, ihl, ihr, List.singleton_append]
    cases c <;> simp only [Connective.op, readBack]
  | not operand ih =>
    simp only [Expr.tokens, List.append_assoc, ih, List.singleton_append, readBack]

/-- Different expressions are written differently. -/
theorem Expr.tokens_injective : Function.Injective Expr.tokens := by
  intro e e' h
  have he := readBack_tokens e [] []
  rw [h, readBack_tokens e' [] []] at he
  simpa [readBack] using he.symm

/-- A program is the postfix form of one expression at most. -/
theorem Writes.unique {e e' : Expr} {tokens : List Token} (h : Writes ids e tokens)
    (h' : Writes ids e' tokens) : e = e' :=
  Expr.tokens_injective (h.tokens_eq.symm.trans h'.tokens_eq)

end ScopeAlgebra.Program
