import ScopeAlgebra.Proofs.Pattern.Term

/-!
# Laws of derivations

White space in front of what is derived makes no difference, and a category can end in front of
whatever does not continue it with an operator.
-/

namespace ScopeAlgebra.Pattern

open Text (Blanks skipBlanks)

/-! ## Derivations and white space -/

/-- A text does not start with white space, a negation or a parenthesis. -/
def StartsTerm (s : List Char) : Prop :=
  ∃ c tail, s = c :: tail ∧ Text.isBlank c = false ∧ c ≠ '!' ∧ c ≠ '('

/-- The word of a kind starts like a term. -/
theorem startsTerm_word (kind : TermKind) (s : List Char) :
    StartsTerm ((word kind).toList ++ s) := by
  cases kind <;> exact ⟨_, _, rfl, by decide, by decide, by decide⟩

/-- What a term is derived from starts with the word of its kind. -/
theorem DerivesTerm.startsTerm {s t : List Char} {d : Phrase} (h : DerivesTerm s d t) :
    StartsTerm s := by
  cases h <;> exact startsTerm_word ..

variable {n : Category} {s t w : List Char} {d : Phrase}

/-- White space may stand in front of whatever is derived. -/
theorem Derives.append_left (h : Derives n s d t) (hw : Blanks w) : Derives n (w ++ s) d t := by
  have happend {v : List Char} (hv : Blanks v) : Blanks (w ++ v) :=
    fun c hc => (List.mem_append.mp hc).elim (hw c) (hv c)
  -- White space is passed on to the leftmost unary pattern, which takes it up.
  induction h with
  | single _ ih => exact .single ih
  | more _ hv hchain ih => exact .more ih hv hchain
  | negation hv hoperand => exact List.append_assoc .. ▸ .negation (happend hv) hoperand
  | group hv hinner hv' => exact List.append_assoc .. ▸ .group (happend hv) hinner hv'
  | term hv hterm => exact List.append_assoc .. ▸ .term (happend hv) hterm

/-- White space in front of what is derived may be left out, and something is left then. -/
theorem Derives.skipBlanks (h : Derives n s d t) :
    skipBlanks s ≠ [] ∧ Derives n (skipBlanks s) d t := by
  -- The white space stands in front of the leftmost unary pattern, and that may be derived with
  -- none in front of it.
  induction h with
  | single _ ih => exact ⟨ih.1, .single ih.2⟩
  | more _ hv hchain ih => exact ⟨ih.1, .more ih.2 hv hchain⟩
  | negation hv hoperand =>
    rw [Text.skipBlanks_append_cons hv (by decide)]
    exact ⟨by simp, .negation (w := []) Text.blanks_nil hoperand⟩
  | group hv hinner hv' =>
    rw [Text.skipBlanks_append_cons hv (by decide)]
    exact ⟨by simp, .group (w := []) Text.blanks_nil hinner hv'⟩
  | term hv hterm =>
    obtain ⟨c, tail, rfl, hc, -⟩ := hterm.startsTerm
    rw [Text.skipBlanks_append_cons hv hc]
    exact ⟨by simp, .term (w := []) Text.blanks_nil hterm⟩

/-! ## Where a category ends

A reader of a chain goes on as long as its operator follows. So it finds the derivations behind
which neither the operator of the chain nor one that binds tighter stands. -/

/-- An operator follows, perhaps behind white space. -/
def Continues (o : Operator) (s : List Char) : Prop :=
  ∃ more, Text.skipBlanks s = o.char :: o.char :: more

/-- What a category derives can end in front of a text. -/
def Category.EndsAt : Category → List Char → Prop
  | .unary, _ => True
  | .chain .and, s => ¬ Continues .and s
  | .chain .or, s => ¬ Continues .or s ∧ ¬ Continues .and s

/-- No operator follows where only white space is left. -/
theorem not_continues_of_skipBlanks_eq_nil {o : Operator} (h : Text.skipBlanks s = []) :
    ¬ Continues o s := by
  rintro ⟨more, hmore⟩
  rw [h] at hmore
  contradiction

/-- No operator follows where the next character is not the one it starts with. -/
theorem not_continues_of_skipBlanks_eq_cons {o : Operator} {c : Char}
    (h : Text.skipBlanks s = c :: t) (hc : c ≠ o.char) : ¬ Continues o s := by
  rintro ⟨more, hmore⟩
  rw [h] at hmore
  exact hc (List.cons.inj hmore).1

/-- Where a chain ends its operator does not follow. -/
theorem Category.EndsAt.not_continues {o : Operator} (h : (Category.chain o).EndsAt s) :
    ¬ Continues o s := by
  cases o with
  | or => exact h.1
  | and => exact h

/-- Where a chain ends its last operand does. -/
theorem Category.EndsAt.operand {o : Operator} (h : (Category.chain o).EndsAt s) :
    o.operand.EndsAt s := by
  cases o with
  | or => exact h.2
  | and => trivial

/-- An operand ends where the operator of its chain follows. -/
theorem endsAt_operator (o : Operator) (hw : Blanks w) :
    o.operand.EndsAt (w ++ o.char :: o.char :: s) := by
  -- Only the operands of a disjunction are chains themselves, and they do not go on with a bar.
  cases o with
  | or =>
    have h : Text.skipBlanks (w ++ '|' :: '|' :: s) = '|' :: '|' :: s :=
      Text.skipBlanks_append_cons hw (by decide) _
    exact not_continues_of_skipBlanks_eq_cons h (by decide)
  | and => trivial

/-- A whole pattern ends where nothing but white space follows. -/
theorem endsAt_blanks (hs : Blanks s) : (Category.chain .or).EndsAt s :=
  have h := Text.skipBlanks_eq_nil_iff.mpr hs
  ⟨not_continues_of_skipBlanks_eq_nil h, not_continues_of_skipBlanks_eq_nil h⟩

/-- A whole pattern ends where a closing parenthesis follows. -/
theorem endsAt_parenthesis (hw : Blanks w) : (Category.chain .or).EndsAt (w ++ ')' :: s) := by
  have h : Text.skipBlanks (w ++ ')' :: s) = ')' :: s :=
    Text.skipBlanks_append_cons hw (by decide) s
  exact ⟨not_continues_of_skipBlanks_eq_cons h (by decide),
    not_continues_of_skipBlanks_eq_cons h (by decide)⟩

end ScopeAlgebra.Pattern
