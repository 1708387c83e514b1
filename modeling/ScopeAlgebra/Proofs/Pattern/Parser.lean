import ScopeAlgebra.Proofs.Pattern.Derivation

/-!
# Patterns are read by their grammar

A reader agrees with a category when it reads exactly what the category derives, up to white space
behind it. Every reader of the parser does, given that the reader for what stands in parentheses
does, so `parse_eq_ok` can say that a text is read as a pattern exactly when the grammar derives it.
-/

namespace ScopeAlgebra.Pattern

open Text (Blanks skipBlanks)

variable {bound : Nat}

/-- A reader reads what a category derives: nothing else, and whatever the rest of the text does not
continue. The rests may differ by white space at their start. -/
structure Reader.Agrees (r : Reader bound Pattern) (n : Category) : Prop where
  sound : ∀ {s rest : List Char} {p : Pattern} {h : s.length < bound}, r.read s h = .ok (p, rest) →
    ∃ d t, Derives n s d t ∧ d.toPattern = p ∧ skipBlanks rest = skipBlanks t
  complete : ∀ {s t : List Char} {d : Phrase} (h : s.length < bound), Derives n s d t → n.EndsAt t →
    ∃ rest, r.read s h = .ok (d.toPattern, rest) ∧ skipBlanks rest = skipBlanks t

/-! ## Chains -/

/-- Joins the operands of a chain. -/
def Operator.joinAll : Operator → List Pattern → Pattern
  | .or => disjoin
  | .and => conjoin

/-- A single operand stands for itself. -/
theorem Operator.joinAll_singleton (o : Operator) (p : Pattern) : o.joinAll [p] = p := by
  cases o <;> rfl

/-- The operands behind the first one may be joined before it is. -/
theorem Operator.joinAll_cons (o : Operator) (p : Pattern) {ps : List Pattern} (hps : ps ≠ []) :
    o.joinAll (p :: ps) = o.join p (o.joinAll ps) := by
  match ps with
  | [q] => cases o <;> simp [joinAll, join, conjoin, disjoin]
  | q :: q' :: ps => cases o <;> simp [joinAll, join, conjoin, disjoin, factors, alternatives]

variable {o : Operator} {operand : Reader bound Pattern} {s t rest : List Char}

/-- What a chain reads derives from the operator's category. -/
theorem sound_readChain (hoperand : operand.Agrees o.operand) {h : s.length < bound}
    {operands : List Pattern} (hread : readChain o.char operand s h = .ok (operands, rest)) :
    operands ≠ [] ∧ ∃ d t, Derives (.chain o) s d t ∧ d.toPattern = o.joinAll operands ∧
      skipBlanks rest = skipBlanks t := by
  generalize hop : o.char = op at hread
  -- The cases are those of the reader: the operand cannot be read, the operator follows with or
  -- without an operand behind it, or something else does.
  fun_induction readChain op operand s h generalizing operands rest with
  | case1 => contradiction
  | case2 => contradiction
  | case3 s h p after hp c c' more hskip hops hmore operands' rest' hchain ih =>
    -- The operator follows: the operand leaves white space, the operator and the rest of the chain.
    cases hread
    simp only [Bool.and_eq_true, decide_eq_true_eq] at hops
    obtain ⟨rfl, rfl⟩ := hops
    subst hop
    obtain ⟨hne, e, t, he, hjoin, hrest⟩ := ih hchain
    obtain ⟨d, u, hd, rfl, hu⟩ := hoperand.sound hp
    obtain ⟨w, hw, hwu⟩ := Text.exists_blanks u
    rw [← hu, hskip] at hwu
    rw [← hwu] at hd
    exact ⟨by simp, .binary o d e, t, .more hd hw he,
      by rw [Phrase.toPattern, hjoin, o.joinAll_cons _ hne], hrest⟩
  | case4 s h p after hp c c' more hskip =>
    -- Something else follows, which the chain leaves.
    cases hread
    obtain ⟨d, u, hd, rfl, hu⟩ := hoperand.sound hp
    refine ⟨by simp, d, u, .single hd, (o.joinAll_singleton _).symm, ?_⟩
    rw [← hskip, Text.skipBlanks_skipBlanks, hu]
  | case5 s h p after hp =>
    cases hread
    obtain ⟨d, u, hd, rfl, hu⟩ := hoperand.sound hp
    refine ⟨by simp, d, u, .single hd, (o.joinAll_singleton _).symm, ?_⟩
    rw [Text.skipBlanks_skipBlanks, hu]

/-- A chain ends behind an operand that its operator does not follow. -/
theorem readChain_of_not_continues {p : Pattern} {h : s.length < bound}
    (hread : operand.read s h = .ok (p, rest)) (hends : ¬ Continues o rest) :
    readChain o.char operand s h = .ok ([p], skipBlanks rest) := by
  rw [readChain]
  split
  next hread' => rw [hread] at hread'; contradiction
  next q after hread' =>
    rw [hread] at hread'
    cases hread'
    split
    next c c' more hskip =>
      rw [if_neg, hskip]
      simp only [Bool.and_eq_true, decide_eq_true_eq]
      rintro ⟨rfl, rfl⟩
      exact hends ⟨more, hskip⟩
    · rfl

/-- A chain goes on behind its operator. -/
theorem readChain_of_continues {p : Pattern} {ps : List Pattern} {s' : List Char}
    {h : s.length < bound} {h' : s'.length < bound} (hread : operand.read s h = .ok (p, rest))
    (hskip : skipBlanks rest = o.char :: o.char :: s')
    (hchain : readChain o.char operand s' h' = .ok (ps, t)) :
    readChain o.char operand s h = .ok (p :: ps, t) := by
  rw [readChain]
  split
  next hread' => rw [hread] at hread'; contradiction
  next q after hread' =>
    rw [hread] at hread'
    cases hread'
    split
    next c c' more hskip' =>
      rw [hskip] at hskip'
      cases hskip'
      rw [if_pos (by simp)]
      simp only [hchain]
    next hother => exact absurd hskip (hother _ _ _)

/-- A chain reads whatever its operator's category derives. -/
theorem complete_readChain (hoperand : operand.Agrees o.operand) {d : Phrase} (h : s.length < bound)
    (hd : Derives (.chain o) s d t) (hends : (Category.chain o).EndsAt t) :
    ∃ operands rest, readChain o.char operand s h = .ok (operands, rest) ∧ operands ≠ [] ∧
      o.joinAll operands = d.toPattern ∧ skipBlanks rest = skipBlanks t := by
  generalize hn : Category.chain o = n at hd
  -- The induction is along the derivation of the chain, whose operands are read one after the
  -- other.
  induction hd with
  | negation | group | term => contradiction
  | @single o' s t d hd =>
    cases hn
    obtain ⟨rest, hread, hrest⟩ := hoperand.complete h hd hends.operand
    -- What the reader leaves may differ from the rest of the derivation, but not in whether the
    -- operator follows.
    have hlast : ¬ Continues o rest := by
      rintro ⟨more, hmore⟩
      exact hends.not_continues ⟨more, hrest ▸ hmore⟩
    refine ⟨[d.toPattern], skipBlanks rest, readChain_of_not_continues hread hlast, by simp,
      o.joinAll_singleton _, ?_⟩
    rw [Text.skipBlanks_skipBlanks, hrest]
  | @more o' s w s' t d e hd hw he _ ih =>
    cases hn
    obtain ⟨rest, hread, hrest⟩ := hoperand.complete h hd (endsAt_operator o hw)
    have hskip : skipBlanks rest = o.char :: o.char :: s' := by
      rw [hrest, Text.skipBlanks_append_cons hw (by cases o <;> decide)]
    have hshorter : s'.length < bound := by
      have hlt := operand.length_rest hread
      have hle := Text.length_skipBlanks_le rest
      rw [hskip] at hle
      simp only [List.length_cons] at hle
      omega
    obtain ⟨ps, rest', hchain, hne, hjoin, hrest'⟩ := ih hshorter hends rfl
    refine ⟨d.toPattern :: ps, rest', readChain_of_continues hread hskip hchain,
      by simp, ?_, hrest'⟩
    rw [o.joinAll_cons _ hne, hjoin, Phrase.toPattern]

/-- The reader of a chain agrees with its category when the reader of the operands does. -/
theorem agrees_chainReader (hoperand : operand.Agrees o.operand) :
    (chainReader o.char o.joinAll operand).Agrees (.chain o) where
  sound {s rest p h} hread := by
    simp only [chainReader] at hread
    split at hread
    · contradiction
    next hchain =>
      cases hread
      exact (sound_readChain hoperand hchain).2
  complete {s t d} h hd hends := by
    obtain ⟨ps, rest, hchain, -, hjoin, hrest⟩ := complete_readChain hoperand h hd hends
    exact ⟨rest, by simp only [chainReader, hchain, hjoin], hrest⟩

/-! ## Unary patterns -/

variable {inner : Reader bound Pattern} {n : Category} {d : Phrase}

/-- What stands in parentheses is read by the reader for what stands there. -/
theorem closeParenthesis_eq_ok {cs : List Char} {reading : Reading Pattern} {p : Pattern} :
    closeParenthesis cs reading = .ok (p, rest) ↔
      ∃ between, reading = .ok (p, between) ∧ skipBlanks between = ')' :: rest := by
  constructor
  · intro h
    rcases reading with failure | ⟨q, between⟩
    · contradiction
    · simp only [closeParenthesis] at h
      split at h
      next hskip =>
        cases h
        exact ⟨between, rfl, hskip⟩
      · contradiction
  · rintro ⟨between, rfl, hskip⟩
    simp only [closeParenthesis, hskip]

/-- What a unary reader reads derives from the grammar, and the rest is left as it stands. -/
theorem sound_readUnary (hinner : inner.Agrees (.chain .or)) {h : s.length < bound + 1}
    {p : Pattern} (hread : readUnary inner s h = .ok (p, rest)) :
    ∃ d, Derives .unary s d rest ∧ d.toPattern = p := by
  -- The reader takes white space and negations off one character at a time.
  induction s generalizing p with
  | nil => contradiction
  | cons c tail ih =>
    unfold readUnary at hread
    split at hread
    next hblank =>
      obtain ⟨d, hd, rfl⟩ := ih hread
      exact ⟨d, hd.append_left (Text.blanks_singleton hblank), rfl⟩
    · split at hread
      next hnot =>
        split at hread
        · contradiction
        next hoperand =>
          cases hread
          obtain ⟨d, hd, rfl⟩ := ih hoperand
          rw [hnot]
          exact ⟨.negation d, .negation (w := []) Text.blanks_nil hd, rfl⟩
      · rw [readPrimary] at hread
        split at hread
        next hopen =>
          -- The white space in front of the closing parenthesis was skipped on both sides.
          obtain ⟨between, hpattern, hclose⟩ := closeParenthesis_eq_ok.mp hread
          obtain ⟨d, t, hd, rfl, ht⟩ := hinner.sound hpattern
          obtain ⟨v, hv, hvt⟩ := Text.exists_blanks t
          rw [← ht, hclose] at hvt
          rw [← hvt] at hd
          rw [hopen]
          exact ⟨d, .group (w := []) Text.blanks_nil hd hv, rfl⟩
        · obtain ⟨d, hd, rfl⟩ := readTerm_eq_ok.mp hread
          exact ⟨d, .term (w := []) Text.blanks_nil hd, rfl⟩

/-- White space in front of a unary pattern is skipped. -/
theorem readUnary_append {w : List Char} (hw : Blanks w) (h : (w ++ s).length < bound + 1)
    (h' : s.length < bound + 1) : readUnary inner (w ++ s) h = readUnary inner s h' := by
  induction w with
  | nil => rfl
  | cons c w ih =>
    obtain ⟨hc, hw⟩ := List.forall_mem_cons.mp hw
    change readUnary inner (c :: (w ++ s)) h = _
    rw [readUnary, if_pos hc]
    exact ih hw _

/-- A unary reader reads whatever the grammar derives. -/
theorem complete_readUnary (hinner : inner.Agrees (.chain .or)) (h : s.length < bound + 1)
    (hd : Derives .unary s d t) : readUnary inner s h = .ok (d.toPattern, t) := by
  generalize hn : Category.unary = n at hd
  -- The white space that the grammar allows in front is skipped first in each case.
  induction hd with
  | single | more => contradiction
  | @negation w s t d hw hd ih =>
    have hlength : ('!' :: s).length < bound + 1 := by
      simp only [List.length_append, List.length_cons] at h ⊢
      omega
    rw [readUnary_append hw _ hlength, readUnary, if_neg (by decide), if_pos rfl, ih _ rfl]
    rfl
  | @group w s v t d hw hd hv _ =>
    have hlength : s.length + 1 < bound + 1 := by
      simp only [List.length_append, List.length_cons] at h
      omega
    rw [readUnary_append hw _ hlength, readUnary, if_neg (by decide), if_neg (by decide),
      readPrimary, if_pos rfl]
    obtain ⟨between, hpattern, hbetween⟩ :=
      hinner.complete (Nat.lt_of_succ_lt_succ hlength) hd (endsAt_parenthesis hv)
    refine closeParenthesis_eq_ok.mpr ⟨between, hpattern, ?_⟩
    rw [hbetween, Text.skipBlanks_append_cons hv (by decide)]
  | @term w s t d hw hterm =>
    have hlength : s.length < bound + 1 := by
      rw [List.length_append] at h
      omega
    rw [readUnary_append hw _ hlength]
    have hread := readTerm_eq_ok.mpr ⟨d, hterm, rfl⟩
    obtain ⟨c, tail, rfl, hblank, hnot, hopen⟩ := hterm.startsTerm
    rw [readUnary, if_neg (by simp [hblank]), if_neg hnot, readPrimary, if_neg hopen, hread]

/-- The reader of unary patterns agrees with their category when the reader for parentheses does. -/
theorem agrees_unaryReader (hinner : inner.Agrees (.chain .or)) :
    (unaryReader inner).Agrees .unary where
  sound {s rest p h} hread := by
    obtain ⟨d, hd, hp⟩ := sound_readUnary hinner hread
    exact ⟨d, rest, hd, hp, rfl⟩
  complete {s t d} h hd _ := ⟨t, complete_readUnary hinner h hd, rfl⟩

/-! ## Whole patterns -/

/-- The reader of patterns agrees with the grammar, whatever its bound. -/
theorem agrees_reader (bound : Nat) : (reader bound).Agrees (.chain .or) := by
  induction bound with
  | zero =>
    exact ⟨fun {_ _ _ h} => absurd h (Nat.not_lt_zero _), fun h => absurd h (Nat.not_lt_zero _)⟩
  | succ bound ih =>
    have hunary : (unaryReader (reader bound)).Agrees (Operator.operand .and) :=
      agrees_unaryReader ih
    have hand := agrees_chainReader hunary
    -- The operands of "or" are the chains of "and".
    exact agrees_chainReader (o := .or) hand

/-- A text is read as a pattern exactly when the grammar derives it. -/
theorem readWhole_eq_ok {p : Pattern} :
    readWhole s = .ok p ↔ ∃ d, DerivesPattern s d ∧ d.toPattern = p := by
  constructor
  · intro h
    unfold readWhole at h
    split at h
    · contradiction
    · split at h
      · contradiction
      next q rest hread =>
        split at h
        next hrest =>
          cases h
          obtain ⟨d, t, hd, hp, ht⟩ := (agrees_reader _).sound hread
          obtain ⟨w, hw, hs⟩ := Text.exists_blanks s
          refine ⟨d, ⟨t, ?_, Text.skipBlanks_eq_nil_iff.mp (ht ▸ hrest)⟩, hp⟩
          rw [← hs]
          exact hd.append_left hw
        · contradiction
  · rintro ⟨d, ⟨t, hd, ht⟩, rfl⟩
    -- The parser skips the white space in front of the whole text before it reads.
    obtain ⟨hne, hd⟩ := hd.skipBlanks
    obtain ⟨rest, hread, hrest⟩ :=
      (agrees_reader _).complete (Nat.lt_succ_self _) hd (endsAt_blanks ht)
    rw [Text.skipBlanks_eq_nil_iff.mpr ht] at hrest
    unfold readWhole
    split
    next hnil => exact absurd hnil hne
    · simp only [hread, hrest]

/-- A text stands for the pattern of its derivation. -/
theorem parse_eq_ok {text : String} {p : Pattern} :
    parse text = .ok p ↔ ∃ d, DerivesPattern text.toList d ∧ d.toPattern = p := by
  rw [← readWhole_eq_ok]
  unfold parse
  split
  next hread => simp [hread]
  next hread => simp [hread]

/-- A canonical text is that of the pattern that was read. -/
theorem canonical_eq_ok {text rendered : String} :
    canonical text = .ok rendered ↔ ∃ p, parse text = .ok p ∧ p.render = rendered := by
  rw [canonical]
  cases parse text <;> simp [Except.map]

/-! ## Texts that are no patterns -/

/-- A chain cannot be read when its first operand cannot. -/
theorem read_chainReader_of_error {bound : Nat} {op : Char} {join : List Pattern → Pattern}
    {operand : Reader bound Pattern} {cs : List Char} {h : cs.length < bound} {failure : Failure}
    (hread : operand.read cs h = .error failure) :
    (chainReader op join operand).read cs h = .error failure := by
  have hchain : readChain op operand cs h = .error failure := by
    rw [readChain]
    split
    next hfirst =>
      rw [hread] at hfirst
      cases hfirst
      rfl
    next hfirst =>
      rw [hread] at hfirst
      contradiction
  simp only [chainReader, hchain]

/-- A text is no pattern when its first character cannot start one. -/
theorem parse_of_stray {text : String} {c : Char} {cs : List Char}
    (hcs : Text.skipBlanks text.toList = c :: cs) (hletter : Text.isLetter c = false)
    (hnot : c ≠ '!') (hopen : c ≠ '(') :
    parse text = .error ⟨.expectedTerm c, text.toList.length - (cs.length + 1) + 1⟩ := by
  have hblank : Text.isBlank c = false := Text.isBlank_of_skipBlanks_eq_cons hcs
  have hunary : readUnary (reader (cs.length + 1)) (c :: cs) (Nat.lt_succ_self _) =
      .error ⟨.expectedTerm c, cs.length + 1⟩ := by
    simp [readUnary, readPrimary, readTerm, hblank, hletter, hnot, hopen, failAt]
  have hreader : (reader ((c :: cs).length + 1)).read (c :: cs) (Nat.lt_succ_self _) =
      .error ⟨.expectedTerm c, cs.length + 1⟩ :=
      read_chainReader_of_error (read_chainReader_of_error hunary)
  have hwhole : readWhole text.toList = .error ⟨.expectedTerm c, cs.length + 1⟩ := by
    simp only [readWhole, hcs]
    split
    next herror =>
      rw [hreader] at herror
      cases herror
      rfl
    next hok =>
      rw [hreader] at hok
      contradiction
  rw [parse, hwhole]

/-- Patterns are the texts that the grammar derives, and a pattern selects what its text says: every
derivation of the text, with nothing joined or cancelled, selects the same files. -/
theorem parse_reads_grammar (text : String) :
    ((∃ p, parse text = .ok p) ↔ ∃ d, DerivesPattern text.toList d) ∧
      ∀ p d, parse text = .ok p → DerivesPattern text.toList d →
        ∀ f : File, p.selects f = true ↔ d.Selects f := by
  constructor
  · constructor
    · rintro ⟨p, hp⟩
      obtain ⟨d, hd, -⟩ := parse_eq_ok.mp hp
      exact ⟨d, hd⟩
    · rintro ⟨d, hd⟩
      exact ⟨d.toPattern, parse_eq_ok.mpr ⟨d, hd, rfl⟩⟩
  · intro p d hp hd f
    have hparse := parse_eq_ok.mpr ⟨d, hd, rfl⟩
    obtain rfl : p = d.toPattern := Except.ok.inj (hp.symm.trans hparse)
    exact selects_toPattern d f

/-- Two negations are read from the grammar, and the pattern selects what the term under them
does. -/
theorem parse_twiceNegated :
    ∃ p, parse "!! src[ a ]:b" = .ok p ∧
    ∀ f : File, p.selects f = true ↔
      (Phrase.term .src (some " a ".toList) "b".toList).Selects f := by
  have hterm : DerivesTerm "src[ a ]:b".toList (.term .src (some " a ".toList) "b".toList) [] :=
    @DerivesTerm.inModule .src " a ".toList "b".toList [] (by decide)
      (fun h => absurd (h 'a' (by decide)) (by decide))
      ⟨by decide, not_mem_globStops_of_all (by decide), by simp⟩
  have hunary := Derives.term (Text.blanks_singleton (c := ' ') (by decide)) hterm
  have hd : DerivesPattern "!! src[ a ]:b".toList
      (.negation (.negation (.term .src (some " a ".toList) "b".toList))) :=
    ⟨[], .single (.single (.negation (w := []) Text.blanks_nil (.negation (w := []) Text.blanks_nil
      hunary))), Text.blanks_nil⟩
  obtain ⟨p, hp⟩ := (parse_reads_grammar _).1.mpr ⟨_, hd⟩
  exact ⟨p, hp, fun f => ((parse_reads_grammar _).2 p _ hp hd f).trans not_not⟩

end ScopeAlgebra.Pattern
