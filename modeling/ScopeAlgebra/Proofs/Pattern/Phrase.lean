import ScopeAlgebra.Proofs.Pattern.Grammar

/-!
# From derivations to patterns

`Phrase.toPattern` is the pattern that a derivation stands for once nested operands are joined and
double negations are cancelled. `selects_toPattern` says that this rewriting changes no answer.
-/

namespace ScopeAlgebra.Pattern

/-! ## Boolean values of rewritten patterns -/

section Values

attribute [local simp] holds allHold someHolds

variable (value : Term → Bool)

/-- Two lists of patterns all hold when each list does. -/
theorem allHold_append (ps qs : List Pattern) :
    allHold value (ps ++ qs) = (allHold value ps && allHold value qs) := by
  induction ps with
  | nil => rfl
  | cons p ps ih => simp only [List.cons_append, allHold, ih, Bool.and_assoc]

/-- Some pattern of two lists holds when one of either does. -/
theorem someHolds_append (ps qs : List Pattern) :
    someHolds value (ps ++ qs) = (someHolds value ps || someHolds value qs) := by
  induction ps with
  | nil => rfl
  | cons p ps ih => simp only [List.cons_append, someHolds, ih, Bool.or_assoc]

/-- The factors of a pattern all hold exactly when the pattern does. -/
theorem allHold_factors (p : Pattern) : allHold value p.factors = p.holds value := by
  cases p <;> simp [factors]

/-- Some alternative of a pattern holds exactly when the pattern does. -/
theorem someHolds_alternatives (p : Pattern) : someHolds value p.alternatives = p.holds value := by
  cases p <;> simp [alternatives]

/-- Cancelling two negations keeps the value. -/
theorem holds_negate (p : Pattern) : p.negate.holds value = !p.holds value := by
  cases p <;> simp [negate]

end Values

/-! ## The pattern of a derivation -/

/-- Joins two patterns by an operator, together with the operands that they contribute to it. -/
def Operator.join : Operator → Pattern → Pattern → Pattern
  | .or, p, q => .disjunction (p.alternatives ++ q.alternatives)
  | .and, p, q => .conjunction (p.factors ++ q.factors)

/-- The pattern that a derivation stands for. -/
def Phrase.toPattern : Phrase → Pattern
  | .term kind module? glob =>
    .term ⟨kind, module?.map fun m => String.ofList (Text.trimChars m), String.ofList glob⟩
  | .negation operand => operand.toPattern.negate
  | .binary o left right => o.join left.toPattern right.toPattern

/-- A term admits a file exactly when its derivation selects it. -/
theorem admits_iff_selects (kind : TermKind) (module? : Option (List Char)) (glob : List Char)
    (f : File) :
    Term.admits ⟨kind, module?.map fun m => String.ofList (Text.trimChars m), String.ofList glob⟩
      f = true ↔ (Phrase.term kind module? glob).Selects f := by
  simp only [Term.admits, Bool.and_eq_true, Phrase.Selects, and_assoc]
  -- The root, the module and the glob are tested one after the other.
  refine and_congr ?_ (and_congr ?_ ?_)
  · unfold Term.admitsRoot
    cases kind.root? <;> simp
  · unfold Term.admitsModule
    rcases module? with _ | m
    · simp
    · cases f.module? <;> simp [Wildcard.isMatch_eq_accepts]
  · rw [Glob.isMatch_eq_accepts, String.toList_ofList]

/-- A negated pattern selects what the pattern does not. -/
theorem selects_negate (p : Pattern) (f : File) : p.negate.selects f = !p.selects f :=
  holds_negate _ p

/-- Patterns joined by "or" select what either of them does. -/
theorem selects_join_or (p q : Pattern) (f : File) :
    (Operator.or.join p q).selects f = (p.selects f || q.selects f) := by
  rw [Operator.join, selects, holds, someHolds_append, someHolds_alternatives,
    someHolds_alternatives]
  rfl

/-- Patterns joined by "and" select what both of them do. -/
theorem selects_join_and (p q : Pattern) (f : File) :
    (Operator.and.join p q).selects f = (p.selects f && q.selects f) := by
  rw [Operator.join, selects, holds, allHold_append, allHold_factors, allHold_factors]
  rfl

/-- The pattern of a derivation selects the files that the derivation does. -/
theorem selects_toPattern (d : Phrase) (f : File) : d.toPattern.selects f = true ↔ d.Selects f := by
  -- The induction is over the derivation: a term, a negation or an operator between two others.
  induction d with
  | term kind module? glob =>
    rw [Phrase.toPattern, selects, holds]
    exact admits_iff_selects kind module? glob f
  | negation operand ih =>
    rw [Phrase.toPattern, selects_negate, Phrase.Selects, ← ih, Bool.not_eq_true', Bool.not_eq_true]
  | binary o left right ihl ihr =>
    cases o with
    | or => rw [Phrase.toPattern, selects_join_or, Bool.or_eq_true, Phrase.Selects, ihl, ihr]
    | and => rw [Phrase.toPattern, selects_join_and, Bool.and_eq_true, Phrase.Selects, ihl, ihr]

end ScopeAlgebra.Pattern
