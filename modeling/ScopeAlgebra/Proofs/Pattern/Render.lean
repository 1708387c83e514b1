import ScopeAlgebra.Proofs.Pattern.Canonical

/-!
# Rendered patterns are read back

A text spells a pattern in a category when the category derives it as that pattern in front of
whatever ends a glob. `Canonical.spells` says that a canonical pattern is spelled by its own text,
so rendering and parsing are inverse.
-/

namespace ScopeAlgebra.Pattern

open Text (Blanks)

/-- A text in front of which a glob ends. -/
def EndsGlob (s : List Char) : Prop := ∀ c, s.head? = some c → c ∈ globStops

/-- A glob ends at the end of the text. -/
theorem endsGlob_nil : EndsGlob [] := by simp [EndsGlob]

/-- A glob ends in front of any character that ends globs. -/
theorem endsGlob_cons {c : Char} (hc : c ∈ globStops) (s : List Char) : EndsGlob (c :: s) := by
  rintro d ⟨⟩
  exact hc

/-- A category derives a pattern from a text, whatever follows that ends a glob. -/
def Spells (n : Category) (text : List Char) (p : Pattern) : Prop :=
  ∀ rest, EndsGlob rest → ∃ d, Derives n (text ++ rest) d rest ∧ d.toPattern = p

variable {o : Operator} {n : Category} {p q : Pattern} {ps : List Pattern} {text text' : List Char}

/-! ## Spelling by the grammar -/

/-- What is spelled as an operand is spelled as a chain of one. -/
theorem Spells.single (h : Spells o.operand text p) : Spells (.chain o) text p := by
  intro rest hrest
  obtain ⟨d, hd, hp⟩ := h rest hrest
  exact ⟨d, .single hd, hp⟩

/-- What is spelled as a unary pattern is spelled as operand of any operator. -/
theorem Spells.operand (h : Spells .unary text p) : Spells o.operand text p := by
  cases o with
  | or => exact .single (o := .and) h
  | and => exact h

/-- What is spelled as a chain is spelled as a chain of the loosest operator. -/
theorem Spells.whole (h : Spells (.chain o) text p) : Spells (.chain .or) text p := by
  cases o with
  | or => exact h
  | and => exact .single (o := .or) h

/-- A negation sign in front spells the negated pattern. -/
theorem Spells.negation (h : Spells .unary text p) : Spells .unary ('!' :: text) p.negate := by
  intro rest hrest
  obtain ⟨d, hd, rfl⟩ := h rest hrest
  exact ⟨.negation d, .negation (w := []) Text.blanks_nil hd, rfl⟩

/-- A pattern in parentheses is spelled as a unary one. -/
theorem Spells.group (h : Spells (.chain .or) text p) :
    Spells .unary ('(' :: (text ++ [')'])) p := by
  intro rest _
  obtain ⟨d, hd, hp⟩ := h (')' :: rest) (endsGlob_cons (by decide) rest)
  refine ⟨d, ?_, hp⟩
  rw [List.cons_append, List.append_assoc]
  exact .group (w := []) (v := []) Text.blanks_nil hd Text.blanks_nil

/-- An operator joins what stands around it, with white space on both sides or none. -/
theorem Spells.more {w w' : List Char} (h : Spells o.operand text p)
    (h' : Spells (.chain o) text' q) (hw : Blanks w) (hw' : Blanks w')
    (hends : ∀ s, EndsGlob (w ++ o.char :: s)) :
    Spells (.chain o) (text ++ (w ++ o.char :: o.char :: (w' ++ text'))) (o.join p q) := by
  intro rest hrest
  obtain ⟨d, hd, rfl⟩ := h (w ++ o.char :: o.char :: (w' ++ (text' ++ rest))) (hends _)
  obtain ⟨e, he, rfl⟩ := h' rest hrest
  refine ⟨.binary o d e, ?_, rfl⟩
  simpa using Derives.more hd hw (he.append_left hw')

/-- A clean term is spelled by its text. -/
theorem spells_term {t : Term} (ht : t.Clean) : Spells .unary t.render.toList (.term t) := by
  intro rest hrest
  have hglob : GlobBefore t.glob.toList rest := ⟨ht.glob_ne_nil, ht.glob_within, hrest⟩
  obtain ⟨kind, module?, glob⟩ := t
  -- A module is written in brackets, and as it is trimmed it is read back as it was.
  rcases module? with _ | m
  · refine ⟨.term kind none glob.toList, .term (w := []) Text.blanks_nil ?_, ?_⟩
    · simpa [Term.render] using @DerivesTerm.anywhere kind _ _ hglob
    · simp [Phrase.toPattern]
  · have hm := ht.module_clean m rfl
    refine ⟨.term kind (some m.toList) glob.toList, .term (w := []) Text.blanks_nil ?_, ?_⟩
    · simpa [Term.render] using @DerivesTerm.inModule kind _ _ _ hm.within hm.not_blank hglob
    · simp [Phrase.toPattern, hm.trimmed]

/-! ## The text of a chain -/

/-- What stands between the operands of an operator. -/
def Operator.separator : Operator → String
  | .or => " || "
  | .and => " && "

/-- The text of a pattern as operand of an operator. -/
def Operator.operandText : Operator → Pattern → String
  | .or, p => p.render
  | .and, p => if p.isDisjunction then parenthesized p.render else p.render

/-- An operator is written twice with a blank on each side. -/
theorem Operator.toList_separator (o : Operator) :
    o.separator.toList = [' ', o.char, o.char, ' '] := by
  cases o <;> rfl

/-- The alternatives of a disjunction are written as operands of its operator. -/
theorem renderAll_eq_map (ps : List Pattern) : renderAll ps = ps.map Operator.or.operandText := by
  induction ps with
  | nil => rfl
  | cons p ps ih => rw [renderAll, ih]; rfl

/-- The factors of a conjunction are written as operands of its operator. -/
theorem renderFactors_eq_map (ps : List Pattern) :
    renderFactors ps = ps.map Operator.and.operandText := by
  induction ps with
  | nil => rfl
  | cons p ps ih => rw [renderFactors, ih]; rfl

/-- A chain is written as its operands with the operator between them. -/
theorem render_node (o : Operator) (ps : List Pattern) :
    (o.node ps).render = o.separator.intercalate (ps.map o.operandText) := by
  cases o with
  | or => rw [Operator.node, render, renderAll_eq_map]; rfl
  | and => rw [Operator.node, render, renderFactors_eq_map]; rfl

/-- A chain is spelled by the texts of its operands. -/
theorem spells_joinAll (hne : ps ≠ [])
    (hps : ∀ p ∈ ps, Spells o.operand (o.operandText p).toList p) :
    Spells (.chain o) (o.separator.intercalate (ps.map o.operandText)).toList (o.joinAll ps) := by
  induction ps with
  | nil => contradiction
  | cons p ps ih =>
    obtain ⟨hp, hps⟩ := List.forall_mem_cons.mp hps
    by_cases hnil : ps = []
    · subst hnil
      rw [List.map_singleton, String.intercalate_singleton, o.joinAll_singleton]
      exact hp.single
    · -- The rest of the chain is spelled behind the operator, as if it stood alone.
      have htexts : ps.map o.operandText ≠ [] := by simpa using hnil
      rw [List.map_cons, String.intercalate_cons_of_ne_nil htexts, o.joinAll_cons p hnil,
        String.toList_append, String.toList_append, o.toList_separator]
      have hspace : Blanks [' '] := Text.blanks_singleton (by decide)
      simpa using hp.more (ih hnil hps) hspace hspace fun _ => endsGlob_cons (by decide) _

/-- Operands of other sorts are joined as they are. -/
theorem joinAll_eq_node (hlength : 2 ≤ ps.length) (hflat : ∀ p ∈ ps, ∀ qs, p ≠ o.node qs) :
    o.joinAll ps = o.node ps := by
  have hoperands : ps.flatMap o.operands = ps := by
    rw [List.flatMap_congr fun p hp => Operator.operands_of_flat (hflat p hp)]
    simp
  match ps with
  | p :: p' :: ps =>
    calc o.joinAll (p :: p' :: ps)
      _ = o.node ((p :: p' :: ps).flatMap o.operands) := by cases o <;> rfl
      _ = o.node (p :: p' :: ps) := by rw [hoperands]

/-! ## The text of a pattern -/

/-- The category that derives the text of a pattern without parentheses around it. -/
def category : Pattern → Category
  | .term _ | .negation _ => .unary
  | .conjunction _ => .chain .and
  | .disjunction _ => .chain .or

/-- What is spelled in the category of a pattern is spelled in the loosest one. -/
theorem Spells.loosen (h : Spells p.category text p) : Spells (.chain .or) text p := by
  cases p with
  | term t => exact .single h.operand
  | negation p => exact .single h.operand
  | conjunction ps => exact h.whole
  | disjunction ps => exact h

/-- In parentheses a pattern is spelled as an operand of whatever binds tightest. -/
theorem Spells.inParentheses (h : Spells p.category p.render.toList p) :
    Spells .unary (parenthesized p.render).toList p := by
  simpa [parenthesized] using h.loosen.group

/-- A pattern is spelled as operand of a negation. -/
theorem Spells.negationText (h : Spells p.category p.render.toList p) :
    Spells .unary (if p.isCompound then parenthesized p.render else p.render).toList p := by
  cases p with
  | term t => exact h
  | negation p => exact h
  | conjunction ps => exact h.inParentheses
  | disjunction ps => exact h.inParentheses

/-- A pattern is spelled as operand of an operator that is not its own. -/
theorem Spells.operandText (h : Spells p.category p.render.toList p) (hflat : ∀ qs, p ≠ o.node qs) :
    Spells o.operand (o.operandText p).toList p := by
  cases o with
  | or =>
    cases p with
    | term t => exact h.operand
    | negation p => exact h.operand
    | conjunction ps => exact h
    | disjunction ps => exact absurd rfl (hflat ps)
  | and =>
    cases p with
    | term t => exact h
    | negation p => exact h
    | conjunction ps => exact absurd rfl (hflat ps)
    | disjunction ps => exact h.inParentheses

/-- A chain is spelled by its text when its operands are spelled by theirs. -/
theorem spells_node (hps : ∀ p ∈ ps, Spells p.category p.render.toList p)
    (hlength : 2 ≤ ps.length) (hflat : ∀ p ∈ ps, ∀ qs, p ≠ o.node qs) :
    Spells (.chain o) (o.node ps).render.toList (o.node ps) := by
  have hne : ps ≠ [] := by
    rintro rfl
    contradiction
  have hspells := spells_joinAll hne fun p hp => (hps p hp).operandText (hflat p hp)
  rwa [joinAll_eq_node hlength hflat, ← render_node] at hspells

/-- A canonical pattern is spelled by its text. -/
theorem Canonical.spells (h : Canonical p) : Spells p.category p.render.toList p := by
  induction h with
  | term ht => exact spells_term ht
  | @negation p hp hflat ih =>
    -- Reading a negation cancels one below it, but there is none.
    have hnegate : p.negate = .negation p := by
      cases p with
      | negation q => exact absurd rfl (hflat q)
      | _ => rfl
    have hspells := ih.negationText.negation
    rw [hnegate] at hspells
    simpa [render, category] using hspells
  | conjunction _ hlength hflat ih => exact spells_node (o := .and) ih hlength hflat
  | disjunction _ hlength hflat ih => exact spells_node (o := .or) ih hlength hflat

/-- A text that spells a pattern is read as it. -/
theorem Spells.parse_eq {s : String} (h : Spells (.chain .or) text p) (hs : s.toList = text) :
    parse s = .ok p := by
  subst hs
  obtain ⟨d, hd, rfl⟩ := h [] endsGlob_nil
  rw [List.append_nil] at hd
  exact parse_eq_ok.mpr ⟨d, ⟨[], hd, Text.blanks_nil⟩, rfl⟩

/-- A canonical pattern is read back from its text. -/
theorem Canonical.parse_render (h : Canonical p) : parse p.render = .ok p :=
  h.spells.loosen.parse_eq rfl

/-- What is read is canonical. -/
theorem canonical_of_parse {text : String} (h : parse text = .ok p) : Canonical p := by
  obtain ⟨d, ⟨rest, hd, -⟩, rfl⟩ := parse_eq_ok.mp h
  exact hd.canonical

/-- Rendering and parsing are inverse: what is read is canonical, a canonical pattern is read back
from its text, so the canonical text of a text is its own canonical text and no two canonical
patterns share one. -/
theorem render_inverts_parse :
    (∀ text p, parse text = .ok p → Canonical p) ∧
      (∀ p, Canonical p → parse p.render = .ok p) ∧
      (∀ text p, parse text = .ok p → ∃ t, canonical text = .ok t ∧ canonical t = .ok t) ∧
      ∀ p q, Canonical p → Canonical q → p.render = q.render → p = q := by
  refine ⟨fun _ _ => canonical_of_parse, fun _ => Canonical.parse_render, ?_, ?_⟩
  · intro text p hp
    have hback := (canonical_of_parse hp).parse_render
    refine ⟨p.render, ?_, ?_⟩
    · rw [canonical, hp]
      rfl
    · rw [canonical, hback]
      rfl
  · intro p q hp hq hrender
    have hback := hp.parse_render
    rw [hrender, hq.parse_render] at hback
    exact (Except.ok.inj hback).symm

/-- A pattern that needs parentheses under its negation and around the second operand. -/
def nestedPattern : Pattern :=
  .conjunction [
    .negation (.disjunction [.term ⟨.src, some "a [b", "**/*.py"⟩, .term ⟨.test, none, "x:[y]"⟩]),
    .disjunction [.term ⟨.lib, none, "*"⟩, .negation (.term ⟨.file, none, "z"⟩)]]

/-- The nested pattern is read back from its text. -/
theorem parse_render_nestedPattern :
    nestedPattern.render = "!(src[a [b]:**/*.py || test:x:[y]) && (lib:* || !file:z)" ∧
      parse nestedPattern.render = .ok nestedPattern := by
  have hmodule : CleanModule "a [b".toList :=
    ⟨fun h => absurd (h 'a' (by decide)) (by decide), by decide, by decide⟩
  have hsrc : Canonical (.term ⟨.src, some "a [b", "**/*.py"⟩) :=
    .term ⟨by rintro m ⟨⟩; exact hmodule, by decide, not_mem_globStops_of_all (by decide)⟩
  have hleft : Canonical (.disjunction [.term ⟨.src, some "a [b", "**/*.py"⟩,
      .term ⟨.test, none, "x:[y]"⟩]) :=
    .disjunction (by simpa using ⟨hsrc, canonical_plain (by decide) (by decide)⟩) (by decide)
      (by simp)
  have hright : Canonical (.disjunction [.term ⟨.lib, none, "*"⟩,
      .negation (.term ⟨.file, none, "z"⟩)]) :=
    .disjunction (by simpa using ⟨canonical_plain (by decide) (by decide),
      .negation (canonical_plain (by decide) (by decide)) (by simp)⟩) (by decide) (by simp)
  have hcanonical : Canonical nestedPattern :=
    .conjunction (by simpa using ⟨.negation hleft (by simp), hright⟩) (by decide) (by simp)
  exact ⟨by rfl, render_inverts_parse.2.1 nestedPattern hcanonical⟩

end ScopeAlgebra.Pattern
