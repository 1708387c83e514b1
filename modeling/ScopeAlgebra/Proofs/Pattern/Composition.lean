import ScopeAlgebra.Proofs.Pattern.Render

/-!
# Patterns put together

What the grammar derives it still derives when something follows that ends a glob
(`Derives.append_right`). A closing parenthesis does, so a text that is read as a pattern is read as
the same one between parentheses, whatever white space or other characters it starts and ends with.
Patterns in parentheses can then be joined and negated as texts, and are read as the patterns joined
and negated as trees.
-/

namespace ScopeAlgebra.Pattern

variable {o : Operator} {n : Category} {p q : Pattern} {s t u glob rest : List Char} {d : Phrase}
  {text text' : String}

/-! ## More text behind a derivation -/

/-- A text that ends a glob still does when another one that does is put behind it. -/
theorem EndsGlob.append_right (hs : EndsGlob s) (hu : EndsGlob u) : EndsGlob (s ++ u) := by
  cases s with
  | nil => exact hu
  | cons c s => exact hs

/-- A glob stays the longest one when what is added ends a glob. -/
theorem GlobBefore.append_right (h : GlobBefore glob rest) (hu : EndsGlob u) :
    GlobBefore glob (rest ++ u) :=
  ⟨h.ne_nil, h.within, EndsGlob.append_right h.ended hu⟩

/-- A term is derived in front of more text when that ends a glob. -/
theorem DerivesTerm.append_right (h : DerivesTerm s d t) (hu : EndsGlob u) :
    DerivesTerm (s ++ u) d (t ++ u) := by
  cases h with
  | anywhere hglob => simpa using DerivesTerm.anywhere (hglob.append_right hu)
  | inModule hm hblank hglob => simpa using DerivesTerm.inModule hm hblank (hglob.append_right hu)

/-- What is derived in front of a rest is derived in front of the rest and more. Only at the end of
the text the last glob could be continued, so what is added has to end one. -/
theorem Derives.append_right (h : Derives n s d t) (hu : EndsGlob u) :
    Derives n (s ++ u) d (t ++ u) := by
  -- Only the term looks at what follows, so the induction carries the addition down to it.
  induction h with
  | single _ ih => exact .single ih
  | more _ hw _ ihoperand ihchain =>
    rw [List.append_assoc] at ihoperand
    exact .more ihoperand hw ihchain
  | negation hw _ ih => simpa using Derives.negation hw ih
  | group hw _ hv ih =>
    rw [List.append_assoc] at ih
    simpa using Derives.group hw ih hv
  | term hw hterm => simpa using Derives.term hw (hterm.append_right hu)

/-! ## Texts put together -/

/-- An operator as it is written between its operands. -/
def Operator.sign : Operator → String
  | .or => "||"
  | .and => "&&"

/-- The sign of an operator is its character twice. -/
theorem Operator.toList_sign (o : Operator) : o.sign.toList = [o.char, o.char] := by cases o <;> rfl

/-- What is read as a pattern spells it between parentheses. -/
theorem spells_parenthesized (h : parse text = .ok p) :
    Spells .unary (parenthesized text).toList p := by
  intro rest _
  obtain ⟨d, ⟨blanks, hd, hblanks⟩, hp⟩ := parse_eq_ok.mp h
  have hinner := hd.append_right (endsGlob_cons (c := ')') (by decide) rest)
  refine ⟨d, ?_, hp⟩
  simpa [parenthesized] using Derives.group (w := []) Text.blanks_nil hinner hblanks

/-- Patterns in parentheses are joined as texts and as trees alike. -/
theorem parse_joined (o : Operator) (hp : parse text = .ok p) (hq : parse text' = .ok q) :
    parse (parenthesized text ++ o.sign ++ parenthesized text') = .ok (o.join p q) := by
  have hends (s : List Char) : EndsGlob (o.char :: s) := by
    cases o <;> exact endsGlob_cons (by decide) s
  have hleft : Spells o.operand (parenthesized text).toList p := (spells_parenthesized hp).operand
  have hright : Spells (.chain o) (parenthesized text').toList q :=
    (spells_parenthesized hq).operand.single
  have hjoined := hleft.more hright Text.blanks_nil Text.blanks_nil hends
  exact hjoined.whole.parse_eq (by simp [o.toList_sign])

/-- A pattern in parentheses is negated as a text and as a tree alike. -/
theorem parse_negated (hp : parse text = .ok p) :
    parse ("!" ++ parenthesized text) = .ok p.negate :=
  (spells_parenthesized hp).negation.operand.single.parse_eq (by simp)

end ScopeAlgebra.Pattern
