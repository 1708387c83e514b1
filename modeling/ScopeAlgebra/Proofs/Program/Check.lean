import ScopeAlgebra.Proofs.Program.Expr

/-!
# What the program check accepts

Tokens stack expressions when they write them one after the other, and the height that the check
follows is the number of these expressions (`finalHeight_eq_ok`). So the check accepts exactly the
postfix forms of a single expression. What it refuses it blames on the first token with which no
program begins, if there is one (`check_accepts_postfix`).
-/

namespace ScopeAlgebra.Program

/-- Tokens write the expressions of a stack, whose top is written last. -/
structure Stacks (ids : List String) (stack : List Expr) (tokens : List Token) : Prop where
  tokens_eq : tokens.map bareToken = stackTokens stack
  known : ∀ e ∈ stack, e.Known ids

/-- Tokens with which some program over the given atoms begins. -/
def Begins (ids : List String) (tokens : List Token) : Prop :=
  ∃ rest e, Writes ids e (tokens ++ rest)

/-- A token that cannot stand on a stack of the given height: a push that names no atom or an
unknown one, or an operation that lacks operands. -/
inductive AtFault (ids : List String) (height : Nat) : Token → Prop where
  | unnamed {atomId? : Option String} (h : atomId?.getD "" = "") :
    AtFault ids height ⟨.push, atomId?⟩
  | unknown {id : String} (h : id ∉ ids) : AtFault ids height ⟨.push, some id⟩
  | starved {op : ProgramOp} {atomId? : Option String} (hop : op ≠ .push) (h : height < op.arity) :
    AtFault ids height ⟨op, atomId?⟩

/-- The first token with which no program begins: it is at fault on the stack that the tokens before
it write. -/
structure Blames (ids : List String) (tokens : List Token) (i : Nat) : Prop where
  atFault : ∃ t stack, tokens[i]? = some t ∧ Stacks ids stack (tokens.take i) ∧
    AtFault ids stack.length t
  stuck : ¬ Begins ids (tokens.take (i + 1))
  before : ∀ j < i, Begins ids (tokens.take (j + 1))

variable {ids : List String} {index height height' : Nat} {t : Token} {tokens more : List Token}
  {stack : List Expr} {err : EngineError}

/-- A single expression on the stack is an expression that is written. -/
theorem stacks_singleton {e : Expr} : Stacks ids [e] tokens ↔ Writes ids e tokens := by
  constructor
  · rintro ⟨htokens, hknown⟩
    exact ⟨by simpa [stackTokens] using htokens, by simpa using hknown⟩
  · rintro ⟨htokens, hknown⟩
    exact ⟨by simpa [stackTokens] using htokens, by simpa using hknown⟩

/-! ## One token -/

/-- The id that an operation carries along does not matter to the height. -/
theorem heightAfter_bareToken :
    heightAfter ids index (bareToken t) height = heightAfter ids index t height := by
  obtain ⟨op, atomId?⟩ := t
  cases op <;> rfl

/-- A refused token is at fault, and the error names its index and is structural. -/
theorem heightAfter_eq_error (h : heightAfter ids index t height = .error err) :
    AtFault ids height t ∧ err.tokenIndex? = some index ∧ err.family = .structural := by
  obtain ⟨op, atomId?⟩ := t
  -- A push is at fault for its id, an operation for the operands that it lacks.
  by_cases hop : op = .push
  · subst hop
    rcases atomId? with _ | id
    · cases h
      exact ⟨.unnamed rfl, rfl, rfl⟩
    · by_cases hempty : id = ""
      · subst hempty
        cases h
        exact ⟨.unnamed rfl, rfl, rfl⟩
      · by_cases hid : id ∈ ids
        · simp [heightAfter, hempty, hid] at h
        · simp only [heightAfter, String.isEmpty_iff, hempty, hid, if_false,
            Except.error.injEq] at h
          subst h
          exact ⟨.unknown hid, rfl, rfl⟩
  · by_cases hheight : height < op.arity
    · have hstarved : heightAfter ids index ⟨op, atomId?⟩ height =
          .error (.tooFewOperands index op height) := by
        cases op <;> first | contradiction | exact if_pos hheight
      rw [hstarved] at h
      cases h
      exact ⟨.starved hop hheight, rfl, rfl⟩
    · have hok : heightAfter ids index ⟨op, atomId?⟩ height = .ok (height - (op.arity - 1)) :=
        (heightAfter_operation hop).mpr ⟨Nat.le_of_not_lt hheight, rfl⟩
      rw [hok] at h
      contradiction

/-- After an accepted token the stack is not empty. -/
theorem heightAfter_pos (h : heightAfter ids index t height = .ok height') : 0 < height' := by
  obtain ⟨op, atomId?⟩ := t
  by_cases hop : op = .push
  · subst hop
    obtain ⟨-, rfl⟩ := heightAfter_push.mp h
    exact Nat.succ_pos height
  · obtain ⟨hle, rfl⟩ := (heightAfter_operation hop).mp h
    have harity : 0 < op.arity := by cases op <;> first | contradiction | decide
    omega

/-! ## Whole lists of tokens -/

/-- The height after two lists of tokens. -/
theorem finalHeight_append :
    finalHeight ids index height (tokens ++ more) =
      (finalHeight ids index height tokens).bind fun h =>
        finalHeight ids (index + tokens.length) h more := by
  induction tokens generalizing index height with
  | nil => rfl
  | cons t rest ih =>
    simp only [List.cons_append, finalHeight, List.length_cons]
    cases heightAfter ids index t height with
    | error err => rfl
    | ok between =>
      have hindex : index + (rest.length + 1) = index + 1 + rest.length := by omega
      rw [hindex]
      exact ih

/-- The ids that operations carry along do not matter to the height. -/
theorem finalHeight_bareTokens :
    finalHeight ids index height (tokens.map bareToken) = finalHeight ids index height tokens := by
  induction tokens generalizing index height with
  | nil => rfl
  | cons t rest ih => simp only [List.map_cons, finalHeight, heightAfter_bareToken, ih]

/-- A known expression adds one to the height. -/
theorem finalHeight_tokens {e : Expr} (he : e.Known ids) :
    finalHeight ids index height e.tokens = .ok (height + 1) := by
  -- The induction is over the expression. Its operands raise the height one by one and its
  -- operation lowers it to one more than before.
  induction e generalizing index height with
  | atom id =>
    have hpush : heightAfter ids index (.ofAtom id) height = .ok (height + 1) :=
      heightAfter_push.mpr ⟨⟨id, rfl, (Expr.known_atom ids id).mp he⟩, rfl⟩
    simp only [Expr.tokens, finalHeight, hpush, bind, Except.bind]
  | binary c left right ihl ihr =>
    obtain ⟨hl, hr⟩ := (Expr.known_binary ids c left right).mp he
    have hop : c.op ≠ .push := by cases c <;> decide
    have harity : c.op.arity = 2 := by cases c <;> rfl
    have hjoin (i : Nat) : heightAfter ids i ⟨c.op, none⟩ (height + 1 + 1) = .ok (height + 1) :=
      (heightAfter_operation hop).mpr ⟨by omega, by omega⟩
    simp only [Expr.tokens, finalHeight_append, ihl hl, ihr hr, finalHeight, hjoin,
      bind, Except.bind]
  | not operand ih =>
    have hnegate (i : Nat) : heightAfter ids i ⟨.not, none⟩ (height + 1) = .ok (height + 1) :=
      (heightAfter_operation (by decide)).mpr ⟨by simp [ProgramOp.arity], rfl⟩
    simp only [Expr.tokens, finalHeight_append, ih ((Expr.known_not ids operand).mp he),
      finalHeight, hnegate, bind, Except.bind]

/-- Known expressions, one after the other, add their number to the height. -/
theorem finalHeight_stackTokens (hknown : ∀ e ∈ stack, e.Known ids) :
    finalHeight ids index height (stackTokens stack) = .ok (height + stack.length) := by
  induction stack with
  | nil => rfl
  | cons e rest ih =>
    obtain ⟨he, hrest⟩ := List.forall_mem_cons.mp hknown
    rw [stackTokens, finalHeight_append, ih hrest]
    exact finalHeight_tokens he

/-- The height that tokens reach is the number of expressions that they write. -/
theorem finalHeight_eq_ok :
    finalHeight ids 0 0 tokens = .ok height ↔
      ∃ stack, Stacks ids stack tokens ∧ stack.length = height := by
  constructor
  · intro h
    have hstart : finalHeight ids 0 ([] : List Expr).length tokens = .ok height := h
    obtain ⟨stack, hlength, hknown, htokens⟩ := stack_of_finalHeight hstart (by simp)
    exact ⟨stack, ⟨htokens.symm, hknown⟩, hlength⟩
  · rintro ⟨stack, ⟨htokens, hknown⟩, rfl⟩
    rw [← finalHeight_bareTokens, htokens, finalHeight_stackTokens hknown, Nat.zero_add]

/-- Tokens that are refused are refused at the first one that is at fault. -/
theorem finalHeight_eq_error (h : finalHeight ids index height tokens = .error err) :
    ∃ pre t rest between, tokens = pre ++ t :: rest ∧
      finalHeight ids index height pre = .ok between ∧
        heightAfter ids (index + pre.length) t between = .error err := by
  -- The first token is refused, or it is accepted and the induction finds the fault behind it.
  induction tokens generalizing index height with
  | nil => contradiction
  | cons t rest ih =>
    cases hstep : heightAfter ids index t height with
    | error e =>
      simp only [finalHeight, hstep, bind, Except.bind] at h
      exact ⟨[], t, rest, height, rfl, rfl, by simpa [hstep] using h⟩
    | ok between =>
      simp only [finalHeight, hstep, bind, Except.bind] at h
      obtain ⟨pre, t', rest', height', rfl, hpre, hfault⟩ := ih h
      refine ⟨t :: pre, t', rest', height', rfl, ?_, ?_⟩
      · simpa only [finalHeight, hstep, bind, Except.bind] using hpre
      · rw [List.length_cons, show index + (pre.length + 1) = index + 1 + pre.length by omega]
        exact hfault

/-! ## Beginnings of programs -/

/-- Accepted tokens leave something on the stack. -/
theorem finalHeight_pos (hne : tokens ≠ [])
    (h : finalHeight ids index height tokens = .ok height') : 0 < height' := by
  rcases List.eq_nil_or_concat tokens with rfl | ⟨pre, t, rfl⟩
  · contradiction
  · rw [List.concat_eq_append, finalHeight_append] at h
    cases hpre : finalHeight ids index height pre with
    | error e => simp [hpre, Except.bind] at h
    | ok between =>
      cases hlast : heightAfter ids (index + pre.length) t between with
      | error e => simp [hpre, hlast, finalHeight, bind, Except.bind] at h
      | ok last =>
        simp only [hpre, hlast, finalHeight, bind, Except.bind, Except.ok.injEq] at h
        exact h ▸ heightAfter_pos hlast

/-- A beginning of accepted tokens is accepted. -/
theorem finalHeight_of_append (h : finalHeight ids index height (tokens ++ more) = .ok height') :
    ∃ between, finalHeight ids index height tokens = .ok between := by
  rw [finalHeight_append] at h
  cases hpre : finalHeight ids index height tokens with
  | error e => simp [hpre, Except.bind] at h
  | ok between => exact ⟨between, rfl⟩

/-- What begins with the beginning of a program is itself the beginning of one. -/
theorem Begins.of_append (h : Begins ids (tokens ++ more)) : Begins ids tokens := by
  obtain ⟨rest, e, he⟩ := h
  exact ⟨more ++ rest, e, by rwa [← List.append_assoc]⟩

/-- The expressions on a stack can be joined, so a program begins with their tokens. -/
theorem Stacks.begins {e : Expr} (h : Stacks ids (e :: stack) tokens) : Begins ids tokens := by
  -- The two topmost expressions are joined, which leaves one less on the stack.
  induction stack generalizing e tokens with
  | nil => exact ⟨[], e, by simpa using stacks_singleton.mp h⟩
  | cons below rest ih =>
    have hjoined : Stacks ids (.binary .and below e :: rest) (tokens ++ [⟨.and, none⟩]) := by
      refine ⟨?_, ?_⟩
      · rw [List.map_append, h.tokens_eq]
        simp [stackTokens, Expr.tokens, bareToken, Connective.op]
      · have hknown := h.known
        simp only [List.forall_mem_cons] at hknown ⊢
        exact ⟨(Expr.known_binary ..).mpr ⟨hknown.2.1, hknown.1⟩, hknown.2.2⟩
    exact (ih hjoined).of_append

/-- A program begins with some tokens exactly when each of them is accepted. -/
theorem begins_iff (hne : tokens ≠ []) :
    Begins ids tokens ↔ ∃ height, finalHeight ids 0 0 tokens = .ok height := by
  constructor
  · rintro ⟨rest, e, he⟩
    exact finalHeight_of_append (finalHeight_eq_ok.mpr ⟨[e], stacks_singleton.mpr he, rfl⟩)
  -- Accepted tokens leave expressions, and these can be joined to one.
  · rintro ⟨height, h⟩
    have hpos : 0 < height := finalHeight_pos hne h
    obtain ⟨stack, hstack, rfl⟩ := finalHeight_eq_ok.mp h
    match stack, hpos, hstack with
    | e :: rest, _, hstack => exact hstack.begins

/-! ## The check -/

/-- No two tokens are blamed. -/
theorem Blames.unique {i j : Nat} (hi : Blames ids tokens i) (hj : Blames ids tokens j) :
    i = j := by
  rcases Nat.lt_trichotomy i j with hlt | heq | hgt
  · exact absurd (hj.before i hlt) hi.stuck
  · exact heq
  · exact absurd (hi.before j hgt) hj.stuck

/-- A token that is at fault behind accepted ones is the one to blame. -/
theorem blames_of_fault {pre rest : List Token} (hpre : finalHeight ids 0 0 pre = .ok height)
    (hfault : heightAfter ids (0 + pre.length) t height = .error err) :
    Blames ids (pre ++ t :: rest) pre.length := by
  obtain ⟨stack, hstack, rfl⟩ := finalHeight_eq_ok.mp hpre
  refine ⟨⟨t, stack, by simp, by simpa using hstack, (heightAfter_eq_error hfault).1⟩, ?_, ?_⟩
  · -- Reading up to the token itself runs into the fault.
    have htake : (pre ++ t :: rest).take (pre.length + 1) = pre ++ [t] := by
      rw [List.take_append, List.take_of_length_le (by omega)]
      simp
    rw [htake, begins_iff (by simp)]
    rintro ⟨height', h⟩
    rw [finalHeight_append, hpre] at h
    simp only [finalHeight, hfault, bind, Except.bind] at h
    contradiction
  · intro j hj
    have htake : (pre ++ t :: rest).take (j + 1) = pre.take (j + 1) :=
      List.take_append_of_le_length hj
    have hsplit : finalHeight ids 0 0 (pre.take (j + 1) ++ pre.drop (j + 1)) =
        .ok stack.length := by
      rwa [List.take_append_drop]
    rw [htake, begins_iff (List.ne_nil_of_length_pos (by rw [List.length_take]; omega))]
    exact finalHeight_of_append hsplit

/-- Among accepted tokens none is to blame. -/
theorem not_blames_of_finalHeight {i : Nat} (h : finalHeight ids 0 0 tokens = .ok height) :
    ¬ Blames ids tokens i := by
  intro hi
  obtain ⟨t, stack, ht, -, -⟩ := hi.atFault
  have hlt : i < tokens.length := (List.getElem?_eq_some_iff.mp ht).1
  have hsplit : finalHeight ids 0 0 (tokens.take (i + 1) ++ tokens.drop (i + 1)) = .ok height := by
    rwa [List.take_append_drop]
  exact hi.stuck ((begins_iff (List.ne_nil_of_length_pos (by rw [List.length_take]; omega))).mpr
    (finalHeight_of_append hsplit))

/-- The check passes when the height is one at the end. -/
theorem check_of_ne_nil (hne : tokens ≠ []) :
    check ids tokens = (finalHeight ids 0 0 tokens).bind fun height =>
      if height = 1 then .ok () else .error (.notOneResult height) := by
  rw [check, if_neg (by simpa using hne)]
  rfl

/-- The check accepts exactly the postfix forms of expressions. -/
theorem check_eq_ok : check ids tokens = .ok () ↔ ∃ e, Writes ids e tokens := by
  refine ⟨writes_of_check, ?_⟩
  rintro ⟨e, he⟩
  have hheight : finalHeight ids 0 0 tokens = .ok 1 :=
    finalHeight_eq_ok.mpr ⟨[e], stacks_singleton.mpr he, rfl⟩
  have hne : tokens ≠ [] := by
    rintro rfl
    simp [finalHeight] at hheight
  rw [check_of_ne_nil hne, hheight]
  rfl

/-- What the error of a refused program says. -/
theorem check_eq_error (h : check ids tokens = .error err) :
    err.family = .structural ∧ (∀ i, err.tokenIndex? = some i ↔ Blames ids tokens i) ∧
      (err.tokenIndex? = none ↔
        tokens = [] ∨ ∃ stack, Stacks ids stack tokens ∧ stack.length ≠ 1) := by
  -- Without tokens nothing is blamed. Otherwise the height fails at some token, or it is not one at
  -- the end.
  by_cases hne : tokens = []
  · subst hne
    cases h
    refine ⟨rfl, fun i => ⟨by simp [EngineError.tokenIndex?], fun hi => ?_⟩,
      by simp [EngineError.tokenIndex?]⟩
    obtain ⟨t, stack, ht, -, -⟩ := hi.atFault
    simp at ht
  · rw [check_of_ne_nil hne] at h
    cases hheight : finalHeight ids 0 0 tokens with
    | error e =>
      obtain rfl : e = err := by simpa [hheight, Except.bind] using h
      obtain ⟨pre, t, rest, between, rfl, hpre, hfault⟩ := finalHeight_eq_error hheight
      obtain ⟨-, hindex, hfamily⟩ := heightAfter_eq_error hfault
      rw [Nat.zero_add] at hindex
      have hblames : Blames ids (pre ++ t :: rest) pre.length := blames_of_fault hpre hfault
      refine ⟨hfamily, fun i => ?_, ?_⟩
      · rw [hindex, Option.some.injEq]
        exact ⟨fun hi => hi ▸ hblames, fun hi => hblames.unique hi⟩
      · simp only [hindex, reduceCtorEq, hne, false_or, false_iff]
        rintro ⟨stack, hstack, -⟩
        simp [finalHeight_eq_ok.mpr ⟨stack, hstack, rfl⟩] at hheight
    | ok height =>
      have hone : height ≠ 1 := by
        rintro rfl
        simp [hheight, Except.bind] at h
      obtain rfl : .notOneResult height = err := by simpa [hheight, Except.bind, hone] using h
      obtain ⟨stack, hstack, rfl⟩ := finalHeight_eq_ok.mp hheight
      refine ⟨rfl, fun i => ⟨by simp [EngineError.tokenIndex?], fun hi => ?_⟩, ?_⟩
      · exact absurd hi (not_blames_of_finalHeight hheight)
      · exact ⟨fun _ => .inr ⟨stack, hstack, hone⟩, fun _ => rfl⟩

/-- The check accepts exactly the postfix forms of expressions over the given atoms, each of which
is the form of one expression only. What it refuses is structurally wrong: the error blames the
first token with which no program begins, and no token when there are none or when they write other
than one expression. -/
theorem check_accepts_postfix (ids : List String) (tokens : List Token) :
    (check ids tokens = .ok () ↔ ∃ e, Writes ids e tokens) ∧
      (∀ e e', Writes ids e tokens → Writes ids e' tokens → e = e') ∧
      ∀ err, check ids tokens = .error err →
        err.family = .structural ∧ (∀ i, err.tokenIndex? = some i ↔ Blames ids tokens i) ∧
          (err.tokenIndex? = none ↔
            tokens = [] ∨ ∃ stack, Stacks ids stack tokens ∧ stack.length ≠ 1) :=
  ⟨check_eq_ok, fun _ _ => Writes.unique, fun _ => check_eq_error⟩

/-- A conjunction with an operation's idle id is one expression; without its second operand its
token is the first with which no program goes on, although a later one is unknown. -/
theorem check_conjunction :
    let ids := ["a", "b"]
    let whole : List Token := [.ofAtom "a", .ofAtom "b", ⟨.and, some "idle"⟩]
    let short : List Token := [.ofAtom "a", ⟨.and, none⟩, .ofAtom "c"]
    check ids whole = .ok () ∧ Writes ids (.binary .and (.atom "a") (.atom "b")) whole ∧
      (∀ e, Writes ids e whole → e = .binary .and (.atom "a") (.atom "b")) ∧
      check ids short = .error (.tooFewOperands 1 .and 1) ∧ Blames ids short 1 := by
  intro ids whole short
  have hwrites : Writes ids (.binary .and (.atom "a") (.atom "b")) whole :=
    ⟨by decide, by simp [ids, Expr.Known, Expr.atomIds]⟩
  have hshort : check ids short = .error (.tooFewOperands 1 .and 1) := rfl
  obtain ⟨haccepts, hunique, -⟩ := check_accepts_postfix ids whole
  obtain ⟨-, -, herror⟩ := check_accepts_postfix ids short
  exact ⟨haccepts.mpr ⟨_, hwrites⟩, hwrites, fun e he => hunique e _ he hwrites, hshort,
    ((herror _ hshort).2.1 1).mp rfl⟩

end ScopeAlgebra.Program
