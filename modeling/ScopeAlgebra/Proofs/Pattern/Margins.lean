import ScopeAlgebra.Proofs.Pattern.Render

/-!
# White space at the end of canonical texts

A glob ends at a blank or a line break but takes in every other white space, so the canonical text
of a pattern may end in some. The canonical text has no more of this inner white space than the text
that was read (`Derives.inner_le`). Hence a canonical text that loses white space when it is trimmed
is not the canonical text of what is left (`trim_eq_of_canonical`).
-/

namespace ScopeAlgebra.Pattern

/-- White space that does not end a glob. -/
def isInner (c : Char) : Bool := Text.isBlank c && !endsGlob c

/-- The number of characters that are inner white space. -/
def inner (s : List Char) : Nat := s.countP isInner

variable {o : Operator} {n : Category} {p q : Pattern} {ps : List Pattern}
  {s t m : List Char} {d : Phrase}

/-! ## Inner white space of a text -/

/-- The empty text has no inner white space. -/
@[simp] theorem inner_nil : inner [] = 0 := rfl

/-- The inner white space of two texts adds up. -/
@[simp] theorem inner_append (s t : List Char) : inner (s ++ t) = inner s + inner t :=
  List.countP_append

/-- A character adds one to the count if it is inner white space. -/
theorem inner_cons (c : Char) (s : List Char) :
    inner (c :: s) = inner s + if isInner c then 1 else 0 :=
  List.countP_cons

/-- Texts put together with a separator have the inner white space of each. -/
theorem inner_intercalate {separator : String} (h : inner separator.toList = 0)
    (texts : List String) :
    inner (separator.intercalate texts).toList = inner (texts.flatMap String.toList) := by
  induction texts with
  | nil => simp
  | cons text rest ih =>
    -- A separator stands in front of every text but the first.
    by_cases hnil : rest = []
    · subst hnil
      simp
    · rw [String.intercalate_cons_of_ne_nil hnil, String.toList_append,
        String.toList_append, inner_append, inner_append, h, ih, Nat.add_zero,
        List.flatMap_cons, inner_append]

/-! ## Inner white space of a pattern -/

/-- Operators are written with blanks around them, and these end a glob. -/
theorem inner_separator (o : Operator) : inner o.separator.toList = 0 := by cases o <;> decide

/-- Parentheses add no inner white space. -/
theorem inner_parenthesized (text : String) :
    inner (parenthesized text).toList = inner text.toList := by
  have hopening : inner "(".toList = 0 := by decide
  have hclosing : inner ")".toList = 0 := by decide
  rw [parenthesized, String.toList_append, String.toList_append, inner_append, inner_append,
    hopening, hclosing, Nat.zero_add, Nat.add_zero]

/-- An operand is written with the inner white space of its pattern, parentheses or not. -/
theorem inner_operandText (o : Operator) (p : Pattern) :
    inner (o.operandText p).toList = inner p.render.toList := by
  cases o with
  | or => rfl
  | and =>
    rw [Operator.operandText]
    split
    · exact inner_parenthesized _
    · rfl

/-- A chain is written with the inner white space of its operands. -/
theorem inner_node (o : Operator) (ps : List Pattern) :
    inner (o.node ps).render.toList = inner (ps.flatMap fun p => p.render.toList) := by
  rw [render_node, inner_intercalate (inner_separator o)]
  induction ps with
  | nil => rfl
  | cons p ps ih =>
    rw [List.map_cons, List.flatMap_cons, List.flatMap_cons, inner_append, inner_append, ih,
      inner_operandText]

/-- A pattern has the inner white space of its operands. -/
theorem inner_operands (o : Operator) (p : Pattern) :
    inner ((o.operands p).flatMap fun p => p.render.toList) = inner p.render.toList := by
  -- A chain of the operator is taken apart, any other pattern is its only operand.
  by_cases hnode : ∃ qs, p = o.node qs
  · obtain ⟨qs, rfl⟩ := hnode
    rw [o.operands_node, inner_node]
  · rw [Operator.operands_of_flat fun qs h => hnode ⟨qs, h⟩, List.flatMap_singleton]

/-- Joining patterns keeps the inner white space of both. -/
theorem inner_join (o : Operator) (p q : Pattern) :
    inner (o.join p q).render.toList = inner p.render.toList + inner q.render.toList := by
  rw [o.join_eq_node, inner_node, List.flatMap_append, inner_append, inner_operands, inner_operands]

/-- The sign of a negation adds no inner white space, nor do parentheses behind it. -/
theorem inner_negation (p : Pattern) :
    inner (Pattern.negation p).render.toList = inner p.render.toList := by
  have hsign : inner "!".toList = 0 := by decide
  rw [render, String.toList_append, inner_append, hsign, Nat.zero_add]
  split
  · exact inner_parenthesized _
  · rfl

/-- Negating keeps the inner white space, also where a negation is taken away. -/
theorem inner_negate (p : Pattern) : inner p.negate.render.toList = inner p.render.toList := by
  cases p with
  | negation q => exact (inner_negation q).symm
  | term _ | conjunction _ | disjunction _ => exact inner_negation _

/-! ## Reading adds no white space -/

/-- Trimming takes characters away from a text and adds none. -/
theorem inner_trimChars_le (s : List Char) : inner (Text.trimChars s) ≤ inner s := by
  have hsublist : (Text.trimChars s).Sublist s := by
    have hskip (u : List Char) : (Text.skipBlanks u).Sublist u :=
      List.dropWhile_sublist Text.isBlank
    have hreverse := ((hskip (Text.skipBlanks s).reverse).reverse).trans
      (by simpa using hskip s : ((Text.skipBlanks s).reverse.reverse).Sublist s)
    exact hreverse
  exact hsublist.countP_le

/-- A term has no more inner white space in its canonical text than where it was read. -/
theorem DerivesTerm.inner_le (h : DerivesTerm s d t) :
    inner d.toPattern.render.toList + inner t ≤ inner s := by
  -- The module is trimmed when it is read; the kind and the glob are written as they were.
  cases h with
  | @anywhere kind glob rest hglob =>
    have htext : (Phrase.term kind none glob).toPattern.render.toList = (word kind).toList ++
        ':' :: glob := by
      simp [Phrase.toPattern, render, Term.render]
    simp only [htext, inner_append, inner_cons]
    omega
  | @inModule kind m glob rest hm hblank hglob =>
    have htext : (Phrase.term kind (some m) glob).toPattern.render.toList =
        (word kind).toList ++ '[' :: (Text.trimChars m ++ ']' :: ':' :: glob) := by
      simp [Phrase.toPattern, render, Term.render]
    have hmodule := inner_trimChars_le m
    simp only [htext, inner_append, inner_cons]
    omega

/-- A pattern has no more inner white space in its canonical text than where it was read. -/
theorem Derives.inner_le (h : Derives n s d t) :
    inner d.toPattern.render.toList + inner t ≤ inner s := by
  -- Along the derivation the pattern counts what was read of it; blanks around operators and inside
  -- parentheses only make the text longer.
  induction h with
  | single _ ih => exact ih
  | more _ _ _ ihleft ihright =>
    simp only [Phrase.toPattern, inner_join, inner_append, inner_cons] at ihleft ihright ⊢
    omega
  | negation _ _ ih =>
    simp only [Phrase.toPattern, inner_negate, inner_append, inner_cons] at ih ⊢
    omega
  | group _ _ _ ih =>
    simp only [inner_append, inner_cons] at ih ⊢
    omega
  | term _ hterm =>
    have hle := hterm.inner_le
    simp only [inner_append]
    omega

/-- A canonical text has no more inner white space than the text that it belongs to. -/
theorem inner_le_of_canonical {text canonical : String}
    (h : Pattern.canonical text = .ok canonical) : inner canonical.toList ≤ inner text.toList := by
  obtain ⟨p, hp, rfl⟩ := canonical_eq_ok.mp h
  obtain ⟨d, ⟨rest, hd, -⟩, rfl⟩ := parse_eq_ok.mp hp
  exact Nat.le_of_add_right_le hd.inner_le

/-! ## Both ends of a canonical text -/

/-- A text starts with no white space and ends with none but inner one. -/
structure Framed (s : List Char) : Prop where
  ne_nil : s ≠ []
  head : ∀ c ∈ s.head?, Text.isBlank c = false
  last : ∀ c ∈ s.getLast?, Text.isBlank c = true → isInner c = true

/-- What stands between two framed texts is framed by them. -/
theorem Framed.append (hs : Framed s) (m : List Char) (ht : Framed t) : Framed (s ++ (m ++ t)) where
  ne_nil := by simp [hs.ne_nil]
  head := by
    rw [List.head?_append_of_ne_nil _ hs.ne_nil]
    exact hs.head
  last := by
    rw [← List.append_assoc, List.getLast?_append_of_ne_nil _ ht.ne_nil]
    exact ht.last

/-- A character that is no white space frames a text by itself. -/
theorem framed_singleton {c : Char} (hc : Text.isBlank c = false) : Framed [c] := by
  refine ⟨by simp, by simpa using hc, fun d hd hblank => ?_⟩
  obtain rfl : c = d := by simpa using hd
  rw [hc] at hblank
  contradiction

/-- Parentheses frame whatever stands between them. -/
theorem framed_parenthesized (text : String) : Framed (parenthesized text).toList := by
  have hopening : Framed "(".toList := framed_singleton (by decide)
  have hclosing : Framed ")".toList := framed_singleton (by decide)
  simpa [parenthesized] using hopening.append text.toList hclosing

/-- A term starts with its kind and ends with its glob. -/
theorem framed_term {t : Term} (ht : t.Clean) : Framed t.render.toList := by
  obtain ⟨m, htext⟩ : ∃ m, t.render.toList = (word t.kind).toList ++ (m ++ t.glob.toList) := by
    unfold Term.render
    split
    next module _ => exact ⟨'[' :: (module.toList ++ [']', ':']), by simp⟩
    next => exact ⟨[':'], by simp⟩
  obtain ⟨c, tail, hcons, hc, -⟩ := startsTerm_word t.kind (m ++ t.glob.toList)
  refine ⟨by simp [htext, hcons], by simpa [htext, hcons] using hc, fun d hd hblank => ?_⟩
  rw [htext, ← List.append_assoc, List.getLast?_append_of_ne_nil _ ht.glob_ne_nil] at hd
  have hglob : d ∉ globStops := ht.glob_within d (List.mem_of_getLast? hd)
  simp [isInner, hblank, endsGlob_eq_false_iff.mpr hglob]

/-- Framed texts that are put together are framed by the first and the last of them. -/
theorem framed_intercalate {separator : String} {texts : List String} (hne : texts ≠ [])
    (h : ∀ text ∈ texts, Framed text.toList) : Framed (separator.intercalate texts).toList := by
  induction texts with
  | nil => contradiction
  | cons text rest ih =>
    obtain ⟨htext, hrest⟩ := List.forall_mem_cons.mp h
    by_cases hnil : rest = []
    · subst hnil
      simpa using htext
    · rw [String.intercalate_cons_of_ne_nil hnil, String.toList_append, String.toList_append,
        List.append_assoc]
      exact htext.append _ (ih hnil hrest)

/-- An operand is framed when its pattern is, in parentheses or without. -/
theorem framed_operandText (h : Framed p.render.toList) (o : Operator) :
    Framed (o.operandText p).toList := by
  cases o with
  | or => exact h
  | and =>
    rw [Operator.operandText]
    split
    · exact framed_parenthesized _
    · exact h

/-- A chain of framed operands is framed. -/
theorem framed_node (hlength : 2 ≤ ps.length) (h : ∀ p ∈ ps, Framed p.render.toList) :
    Framed (o.node ps).render.toList := by
  rw [render_node]
  refine framed_intercalate ?_ ?_
  · rintro hnil
    simp [List.map_eq_nil_iff.mp hnil] at hlength
  · simpa using fun p hp => framed_operandText (h p hp) o

/-- The text of a canonical pattern is framed. -/
theorem Canonical.framed (h : Canonical p) : Framed p.render.toList := by
  -- The induction is over canonical patterns. A term ends with its glob, and that may end in inner
  -- white space.
  induction h with
  | term ht => exact framed_term ht
  | @negation p hp hflat ih =>
    have hsign : Framed "!".toList := framed_singleton (by decide)
    rw [render, String.toList_append]
    refine hsign.append [] ?_
    split
    · exact framed_parenthesized _
    · exact ih
  | conjunction _ hlength _ ih => exact framed_node (o := .and) hlength ih
  | disjunction _ hlength _ ih => exact framed_node (o := .or) hlength ih

/-- Trimming a framed text leaves it as it is or takes inner white space away. -/
theorem Framed.trimChars (h : Framed s) :
    Text.trimChars s = s ∨ inner (Text.trimChars s) < inner s := by
  have hskip : Text.skipBlanks s = s := by
    cases s with
    | nil => rfl
    | cons c s => exact Text.skipBlanks_cons (h.head c rfl) s
  have htrim : Text.trimChars s = (Text.skipBlanks s.reverse).reverse := by
    rw [Text.trimChars, hskip]
  obtain ⟨w, hw, hs⟩ := Text.exists_blanks s.reverse
  -- Nothing is skipped in front, so trimming takes away the white space at the end; if there is
  -- any, its last character is inner.
  cases w with
  | nil =>
    left
    rw [List.nil_append] at hs
    rw [htrim, hs, List.reverse_reverse]
  | cons c w =>
    right
    have hlast : c ∈ s.getLast? := by
      rw [← List.head?_reverse, ← hs]
      rfl
    have hinner : isInner c = true := h.last c hlast (hw c List.mem_cons_self)
    have hcount : inner s = inner (c :: w) + inner (Text.skipBlanks s.reverse) := by
      rw [← inner_append, hs, inner, inner, List.countP_reverse]
    have hreverse : inner (Text.trimChars s) = inner (Text.skipBlanks s.reverse) := by
      rw [htrim, inner, inner, List.countP_reverse]
    rw [hreverse, hcount, inner_cons, if_pos hinner]
    omega

/-- A canonical text is its own canonical text. -/
theorem canonical_canonical {text canonical : String} (h : Pattern.canonical text = .ok canonical) :
    Pattern.canonical canonical = .ok canonical := by
  obtain ⟨p, hp, rfl⟩ := canonical_eq_ok.mp h
  exact canonical_eq_ok.mpr ⟨p, (canonical_of_parse hp).parse_render, rfl⟩

/-- A canonical text is not blank. -/
theorem isBlankText_of_canonical {text canonical : String}
    (h : Pattern.canonical text = .ok canonical) : Text.isBlankText canonical = false := by
  obtain ⟨p, hp, rfl⟩ := canonical_eq_ok.mp h
  have hframed := (canonical_of_parse hp).framed
  rw [Bool.eq_false_iff]
  intro hblank
  obtain ⟨c, s, hs⟩ := List.exists_cons_of_ne_nil hframed.ne_nil
  have hc : Text.isBlank c = true := Text.isBlankText_iff.mp hblank c (by simp [hs])
  rw [hframed.head c (by simp [hs])] at hc
  contradiction

/-- A canonical text is trimmed when what is left after trimming has it as canonical text. -/
theorem trim_eq_of_canonical {text : String} (h : Pattern.canonical text = .ok text)
    (htrim : Pattern.canonical (Text.trim text) = .ok text) : Text.trim text = text := by
  obtain ⟨p, hp, hrender⟩ := canonical_eq_ok.mp h
  have hframed : Framed text.toList := hrender ▸ (canonical_of_parse hp).framed
  have hle : inner text.toList ≤ inner (Text.trimChars text.toList) := by
    simpa [Text.trim] using inner_le_of_canonical htrim
  -- If trimming took inner white space away, what is left could not have all of it in its canonical
  -- text.
  rcases hframed.trimChars with hsame | hless
  · rw [Text.trim, hsame, String.ofList_toList]
  · exact absurd hle (Nat.not_le_of_lt hless)

end ScopeAlgebra.Pattern
