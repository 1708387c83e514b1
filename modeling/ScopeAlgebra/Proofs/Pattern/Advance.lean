import ScopeAlgebra.Proofs.Pattern.Scan

/-!
# Reading always advances

A scan does what the reader of the same part does with the text that is left (`Tracks`). As a reader
always comes to an end, so does the scan of it, it goes forward, and it never asks for a character
that the text does not have (`scan_advances`); the column of a pattern error is that of a character
of the text or the one behind the last.
-/

namespace ScopeAlgebra.Pattern

/-! ## Scans and readings -/

/-- A scan from a position does what a reading does with what is left there: it ends further on,
where the reading leaves off, or it stops where the reading found the same fault. -/
inductive Tracks {α : Type} (text : List Char) (i : Nat) (scan : Scan (α × Nat))
    (reading : Reading α) : Prop where
  | advances {a : α} {j : Nat} {rest : List Char} (hlt : i < j) (hrest : LeftAt text j rest)
    (hscan : scan = pure (a, j)) (hread : reading = .ok (a, rest))
  | stops {fault : PatternFault} {j : Nat} {rest : List Char} (hle : i ≤ j)
    (hrest : LeftAt text j rest) (hscan : scan = throw (.fault fault j))
    (hread : reading = .error ⟨fault, rest.length⟩)

namespace Tracks

variable {α β : Type} {text : List Char} {i j : Nat} {scan : Scan (α × Nat)} {reading : Reading α}

/-- Where a reading succeeds, the scan does. -/
theorem eq_pure {a : α} {rest : List Char} (h : Tracks text i scan reading)
    (hread : reading = .ok (a, rest)) : ∃ j, i < j ∧ LeftAt text j rest ∧ scan = pure (a, j) := by
  cases h with
  | @advances a' j rest' hlt hrest hscan hread' =>
    obtain ⟨rfl, rfl⟩ : a' = a ∧ rest' = rest := by simpa using hread'.symm.trans hread
    exact ⟨j, hlt, hrest, hscan⟩
  | stops _ _ _ hread' =>
    rw [hread] at hread'
    contradiction

/-- Where a reading fails, the scan stops. -/
theorem eq_throw {failure : Failure} (h : Tracks text i scan reading)
    (hread : reading = .error failure) :
    ∃ fault j rest, i ≤ j ∧ LeftAt text j rest ∧ scan = throw (.fault fault j) ∧
      failure = ⟨fault, rest.length⟩ := by
  cases h with
  | advances _ _ _ hread' =>
    rw [hread] at hread'
    contradiction
  | stops hle hrest hscan hread' =>
    exact ⟨_, _, _, hle, hrest, hscan, Except.error.inj (hread.symm.trans hread')⟩

/-- Where a reading fails, the scan stops whatever would come next. -/
theorem bind_of_error {failure : Failure} (h : Tracks text i scan reading)
    (hread : reading = .error failure) (next : α × Nat → Scan (β × Nat)) :
    Tracks text i (scan >>= next) (.error failure) := by
  obtain ⟨fault, j, rest, hle, hrest, hscan, rfl⟩ := h.eq_throw hread
  exact .stops hle hrest (by rw [hscan, throw_bind]) rfl

/-- A scan that starts further on tracks from an earlier position as well. -/
theorem mono (h : Tracks text j scan reading) (hle : i ≤ j) : Tracks text i scan reading := by
  cases h with
  | advances hlt hrest hscan hread => exact .advances (Nat.lt_of_le_of_lt hle hlt) hrest hscan hread
  | stops hge hrest hscan hread => exact .stops (Nat.le_trans hle hge) hrest hscan hread

/-- A fault is found at the position of what is left. -/
theorem of_failAt {cs : List Char} (h : LeftAt text j cs) (hle : i ≤ j) (fault : PatternFault) :
    Tracks (α := α) text i (throw (.fault fault j)) (failAt fault cs) := .stops hle h rfl rfl

end Tracks

/-! ## Terms -/

variable {text cs rest : List Char} {i j : Nat} {kind : TermKind} {module? : Option String}

/-- A glob is scanned as it is read. -/
theorem tracks_scanGlob (h : LeftAt text i cs) :
    Tracks text i (scanGlob text kind module? i) (readGlob kind module? cs) := by
  obtain ⟨j, hpass, hrest, hle, hbetween⟩ := h.exists_pass (!endsGlob ·)
  simp only [scanGlob, readGlob, hpass, pure_bind, hbetween]
  -- The scan has moved exactly when the glob is not empty.
  cases hglob : cs.takeWhile (!endsGlob ·) with
  | nil =>
    have hcs : cs.dropWhile (!endsGlob ·) = cs :=
      List.dropWhile_eq_self_iff.mpr (List.takeWhile_eq_nil_iff.mp hglob)
    rw [hcs] at hrest
    rw [if_pos rfl]
    exact .of_failAt hrest hle _
  | cons c glob =>
    have hne : between text i j ≠ [] := by simp [hbetween, hglob]
    rw [if_neg (List.cons_ne_nil c glob)]
    exact .advances (lt_of_between_ne_nil hne) hrest rfl rfl

/-- The text of a term that was scanned up to a colon is the one that its reader was given. -/
theorem tracks_scanColon {start : Nat} {head : List Char} (h : LeftAt text i cs)
    (hhead : between text start i = head) :
    Tracks text i (scanColon text kind module? start i) (readColon kind module? head cs) := by
  -- At the end of the text both report that a colon was expected there.
  cases cs with
  | nil =>
    simp only [scanColon, if_neg h.not_lt_length, hhead, readColon]
    exact .of_failAt h (Nat.le_refl i) _
  | cons c rest =>
    simp only [scanColon, if_pos h.lt_length, h.lookAt_eq, pure_bind, hhead]
    by_cases hc : c = ':'
    · subst hc
      exact (tracks_scanGlob h.next).mono (Nat.le_succ i)
    · rw [if_neg hc, readColon]
      · exact .of_failAt h (Nat.le_refl i) _
      · rintro rest' ⟨⟩
        exact hc rfl

/-- A module in brackets is scanned as it is read. -/
theorem tracks_bracket {start : Nat} {inner : List Char}
    (hstart : LeftAt text start ((word kind).toList ++ '[' :: inner))
    (h : LeftAt text i ('[' :: inner)) :
    Tracks text i (scanModule text kind start i) (readModule kind ('[' :: inner)) := by
  simp only [scanModule, if_pos h.lt_length, h.lookAt_eq, pure_bind, if_pos]
  -- The first closing bracket is found by position in the one and by what stands in front of it in
  -- the other.
  by_cases hclose : ']' ∈ inner
  · obtain ⟨m, rest, rfl, hm⟩ := List.eq_append_cons_of_mem hclose
    obtain ⟨htake, hdrop⟩ := span_append (p := fun c => decide (c ≠ ']')) (l := m)
      (r := ']' :: rest) (fun c hc => decide_eq_true fun h => hm (h ▸ hc)) (by simp)
    have hsplit : LeftAt text i (('[' :: m) ++ ']' :: rest) := h
    have hbracket := hsplit.append
    have hfind : find? text ']' i = some (i + ('[' :: m).length) :=
      hsplit.find?_eq_some (by simpa using hm)
    have hname : between text (i + 1) (i + ('[' :: m).length) = m := h.next.between_eq hbracket
    have hhead : between text start (i + ('[' :: m).length + 1) =
        (word kind).toList ++ '[' :: m ++ [']'] := by
      refine LeftAt.between_eq ?_ hbracket.next
      simpa using hstart
    rw [hfind]
    simp only [hname, readModule, hdrop, htake]
    cases htrim : Text.trimChars m with
    | nil =>
      rw [if_pos rfl]
      exact .of_failAt h (Nat.le_refl i) _
    | cons c name =>
      rw [if_neg (List.cons_ne_nil c name)]
      exact (tracks_scanColon hbracket.next hhead).mono (by omega)
  · have hdrop : inner.dropWhile (· ≠ ']') = [] := by
      rw [List.dropWhile_eq_nil_iff]
      intro c hc
      simpa using fun heq : c = ']' => hclose (heq ▸ hc)
    have hfind : find? text ']' i = none := h.find?_eq_none (by simpa using hclose)
    rw [hfind]
    simp only [readModule, hdrop]
    exact .of_failAt h (Nat.le_refl i) _

/-- What follows the kind of a term is scanned as it is read. -/
theorem tracks_scanModule {start : Nat} (hstart : LeftAt text start ((word kind).toList ++ cs))
    (h : LeftAt text i cs) : Tracks text i (scanModule text kind start i) (readModule kind cs) := by
  have hkind := hstart.between_eq h
  cases cs with
  | nil =>
    simp only [scanModule, if_neg h.not_lt_length, readModule]
    exact tracks_scanColon h hkind
  | cons c inner =>
    by_cases hc : c = '['
    · subst hc
      exact tracks_bracket hstart h
    · simp only [scanModule, if_pos h.lt_length, h.lookAt_eq, pure_bind, if_neg hc]
      rw [readModule]
      · exact tracks_scanColon h hkind
      · rintro rest' ⟨⟩
        exact hc rfl

/-- A term is scanned as it is read wherever a character is left. -/
theorem tracks_scanTerm {c : Char} (h : LeftAt text i (c :: rest)) :
    Tracks text i (scanTerm text i) (readTerm (c :: rest)) := by
  obtain ⟨j, hpass, hrest, hle, hbetween⟩ := h.exists_pass Text.isLetter
  simp only [scanTerm, readTerm, hpass, pure_bind, hbetween]
  -- Without letters the scan looks up the next character, and there is one.
  cases hletters : (c :: rest).takeWhile Text.isLetter with
  | nil =>
    have hdrop : (c :: rest).dropWhile Text.isLetter = c :: rest :=
      List.dropWhile_eq_self_iff.mpr (List.takeWhile_eq_nil_iff.mp hletters)
    rw [hdrop] at hrest
    rw [if_pos rfl, hrest.lookAt_eq, pure_bind]
    exact .of_failAt hrest hle _
  | cons d letters =>
    rw [if_neg (List.cons_ne_nil d letters)]
    simp only
    cases hkind : (Vocabulary.ofWord? (String.ofList (d :: letters)) : Option TermKind) with
    | none => exact .of_failAt h (Nat.le_refl i) _
    | some kind =>
      refine (tracks_scanModule ?_ hrest).mono hle
      rwa [← ofWord?_ofList.mp hkind, ← hletters, List.takeWhile_append_dropWhile]

/-! ## Chains -/

variable {bound level depth : Nat} {o : Operator} {operand inner : Reader bound Pattern}

/-- A scan does what a reader does, wherever the reader can read and the scan is allowed to go deep
enough. Between a chain and one in parentheses in it there are eight calls, which leave a character
behind. -/
def Reader.TrackedBy (text : List Char) (level : Nat) (r : Reader bound Pattern)
    (scan : Nat → Nat → Scan (Pattern × Nat)) : Prop :=
  ∀ (depth i : Nat) (cs : List Char) (h : cs.length < bound), 8 * cs.length + level ≤ depth →
    LeftAt text i cs →
    Tracks text i (scan depth i) (r.read cs h)

/-- The operator stands in front of two characters when both are its own. -/
theorem operator_prefix_iff {c d : Char} {more : List Char} :
    [o.char, o.char] <+: c :: d :: more ↔ (c = o.char && d = o.char) = true := by
  simp only [List.cons_prefix_cons, List.nil_prefix, and_true, Bool.and_eq_true, decide_eq_true_eq,
    @eq_comm _ o.char]

/-- Behind an operand the scan of a chain goes on when the operator stands there, and ends
otherwise. -/
theorem exists_scanOperands {p : Pattern}
    (htracks : Tracks text i (scanOperand text o depth i) (.ok (p, rest))) :
    ∃ j, i < j ∧ LeftAt text j (Text.skipBlanks rest) ∧
      scanOperands text o (depth + 1) i =
        if standsAt text [o.char, o.char] j = true then
          scanOperands text o depth (j + 2) >>= fun (operands, k) => pure (p :: operands, k)
        else pure ([p], j) := by
  obtain ⟨j, hlt, hrest, hscan⟩ := htracks.eq_pure rfl
  obtain ⟨k, hpass, hblank, hle⟩ := hrest.exists_passBlanks
  refine ⟨k, Nat.lt_of_lt_of_le hlt hle, hblank, ?_⟩
  rw [scanOperands, hscan, pure_bind]
  simp only [hpass, pure_bind]

/-- The operands of a chain are scanned as they are read. -/
theorem tracks_scanOperands (hoperand : operand.TrackedBy text level (scanOperand text o))
    {cs : List Char} (h : cs.length < bound) (hdepth : 8 * cs.length + level ≤ depth)
    (hleft : LeftAt text i cs) :
    Tracks text i (scanOperands text o (depth + 1) i) (readChain o.char operand cs h) := by
  generalize hop : o.char = op
  -- The cases are those of the reader. Every operand takes characters away, so the depth that is
  -- left is enough for the other operands.
  fun_induction readChain op operand cs h generalizing i depth with
  | case1 cs h failure hread =>
    rw [scanOperands]
    exact (hoperand depth i cs h hdepth hleft).bind_of_error hread _
  | case2 cs h p after hread c d more hskip hops hmore failure hchain ih =>
    -- The operator follows, and what stands behind it cannot be read.
    subst hop
    obtain ⟨j, hlt, hrest, hscan⟩ :=
      exists_scanOperands (hread ▸ hoperand depth i cs h hdepth hleft)
    rw [hskip] at hrest
    obtain ⟨deeper, rfl⟩ := Nat.exists_eq_add_of_le' (show 1 ≤ depth by omega)
    have hroom : 8 * more.length + level ≤ deeper := by omega
    rw [hscan, if_pos (hrest.standsAt_iff.mpr (operator_prefix_iff.mpr hops))]
    exact ((ih hroom hrest.next.next).bind_of_error hchain _).mono (by omega)
  | case3 cs h p after hread c d more hskip hops hmore operands rest hchain ih =>
    -- The operator follows, and the other operands behind it.
    subst hop
    obtain ⟨j, hlt, hrest, hscan⟩ :=
      exists_scanOperands (hread ▸ hoperand depth i cs h hdepth hleft)
    rw [hskip] at hrest
    obtain ⟨deeper, rfl⟩ := Nat.exists_eq_add_of_le' (show 1 ≤ depth by omega)
    have hroom : 8 * more.length + level ≤ deeper := by omega
    obtain ⟨k, hlt', hrest', hscan'⟩ := (ih hroom hrest.next.next).eq_pure hchain
    rw [hscan, if_pos (hrest.standsAt_iff.mpr (operator_prefix_iff.mpr hops)), hscan', pure_bind]
    exact .advances (by omega) hrest' rfl rfl
  | case4 cs h p after hread c d more hskip hops =>
    -- Something else follows.
    subst hop
    obtain ⟨j, hlt, hrest, hscan⟩ :=
      exists_scanOperands (hread ▸ hoperand depth i cs h hdepth hleft)
    rw [hskip] at hrest
    rw [hscan, if_neg ((hrest.standsAt_iff.trans operator_prefix_iff).not.mpr hops)]
    exact .advances hlt hrest rfl rfl
  | case5 cs h p after hread hend =>
    -- Too little is left for an operator.
    subst hop
    obtain ⟨j, hlt, hrest, hscan⟩ :=
      exists_scanOperands (hread ▸ hoperand depth i cs h hdepth hleft)
    have hends : ¬ standsAt text [o.char, o.char] j = true := by
      rw [hrest.standsAt_iff]
      rintro ⟨more, hmore⟩
      exact hend _ _ more hmore.symm
    rw [hscan, if_neg hends]
    exact .advances hlt hrest rfl rfl

/-- A chain is scanned as it is read when its operands are. -/
theorem trackedBy_chainReader (hoperand : operand.TrackedBy text level (scanOperand text o)) :
    (chainReader o.char o.joinAll operand).TrackedBy text (level + 2) (scanChain text o) := by
  intro depth i cs h hdepth hleft
  obtain ⟨deeper, rfl⟩ := Nat.exists_eq_add_of_le' (show 2 ≤ depth by omega)
  have hroom : 8 * cs.length + level ≤ deeper := by omega
  have htracks := tracks_scanOperands hoperand h hroom hleft
  rw [scanChain]
  simp only [chainReader]
  cases hchain : readChain o.char operand cs h with
  | error failure => exact htracks.bind_of_error hchain _
  | ok reading =>
    obtain ⟨j, hlt, hrest, hscan⟩ := htracks.eq_pure hchain
    rw [hscan, pure_bind]
    exact .advances hlt hrest rfl rfl

/-! ## Unary patterns -/

/-- A closing parenthesis is scanned as it is read. -/
theorem tracks_scanClosing {opening : List Char} (hopening : LeftAt text i opening) (hlt : i < j)
    (hleft : LeftAt text j rest) (p : Pattern) :
    Tracks text i (scanClosing text i p j) (closeParenthesis opening (.ok (p, rest))) := by
  obtain ⟨k, hpass, hblank, hle⟩ := hleft.exists_passBlanks
  rw [scanClosing, hpass, pure_bind]
  -- A parenthesis that is not closed is reported where it was opened.
  by_cases hclose : [')'] <+: Text.skipBlanks rest
  · obtain ⟨more, hmore⟩ := hclose
    rw [← hmore] at hblank
    rw [if_pos (hblank.standsAt_iff.mpr ⟨more, rfl⟩)]
    exact .advances (by omega) hblank.next rfl (closeParenthesis_eq_ok.mpr ⟨rest, rfl, hmore.symm⟩)
  · have hfails : closeParenthesis opening (.ok (p, rest)) =
        failAt .unclosedParenthesis opening := by
      rw [closeParenthesis]
      split
      next more hmore => exact absurd ⟨more, hmore.symm⟩ hclose
      · rfl
    rw [if_neg (hblank.standsAt_iff.not.mpr hclose), hfails]
    exact .of_failAt hopening (Nat.le_refl i) _

/-- A primary is scanned as it is read behind white space, when what stands in parentheses is. -/
theorem tracks_scanPrimary (hinner : inner.TrackedBy text 8 (scanChain text .or)) {cs : List Char}
    (hskip : Text.skipBlanks cs = rest) (h : rest.length < bound + 1)
    (hdepth : 8 * rest.length ≤ depth) (hleft : LeftAt text i cs) :
    Tracks text i (scanPrimary text (depth + 1) i) (readPrimary inner rest h) := by
  obtain ⟨j, hpass, hblank, hle⟩ := hleft.exists_passBlanks
  rw [hskip] at hblank
  rw [scanPrimary, hpass, pure_bind]
  refine Tracks.mono ?_ hle
  -- Behind the white space the text may be at its end.
  cases rest with
  | nil =>
    rw [if_neg hblank.not_lt_length]
    exact .of_failAt hblank (Nat.le_refl j) _
  | cons c tail =>
    rw [if_pos hblank.lt_length, hblank.lookAt_eq, pure_bind, readPrimary]
    by_cases hc : c = '('
    · rw [if_pos hc, if_pos hc]
      have htracks := hinner depth _ tail (Nat.lt_of_succ_lt_succ h) hdepth hblank.next
      cases hread : inner.read tail (Nat.lt_of_succ_lt_succ h) with
      | error failure => exact (htracks.bind_of_error hread _).mono (Nat.le_succ j)
      | ok reading =>
        obtain ⟨k, hlt, hrest, hscan⟩ := htracks.eq_pure hread
        rw [hscan, pure_bind]
        exact tracks_scanClosing hblank (Nat.lt_of_succ_lt hlt) hrest _
    · rw [if_neg hc, if_neg hc]
      exact tracks_scanTerm hblank

/-- White space in front of a unary pattern does not matter to its reader. -/
theorem readUnary_of_skipBlanks {cs : List Char} (hskip : Text.skipBlanks cs = rest)
    (h : cs.length < bound + 1) (h' : rest.length < bound + 1) :
    readUnary inner cs h = readUnary inner rest h' := by
  obtain ⟨w, hw, hcs⟩ := Text.exists_blanks cs
  rw [hskip] at hcs
  subst hcs
  exact readUnary_append hw h h'

/-- Without a negation in front of it a unary pattern is a primary. -/
theorem readUnary_of_not_negation (hblank : Text.skipBlanks rest = rest) (hnot : ¬ ['!'] <+: rest)
    (h : rest.length < bound + 1) : readUnary inner rest h = readPrimary inner rest h := by
  cases rest with
  | nil => rfl
  | cons c tail =>
    have hc : c ≠ '!' := fun hc => hnot ⟨tail, hc ▸ rfl⟩
    rw [readUnary, if_neg (by simp [Text.isBlank_of_skipBlanks_eq_cons hblank]), if_neg hc]

/-- A negation is scanned as it is read, when its operand is. -/
theorem tracks_negation {tail : List Char} {h : tail.length < bound + 1}
    (htracks : Tracks text (i + 1) (scanUnary text depth (i + 1)) (readUnary inner tail h))
    (h' : ('!' :: tail).length < bound + 1) :
    Tracks text i (scanUnary text depth (i + 1) >>= fun (p, j) => pure (p.negate, j))
      (readUnary inner ('!' :: tail) h') := by
  rw [readUnary, if_neg (by decide), if_pos rfl]
  cases hread : readUnary inner tail h with
  | error failure => exact (htracks.bind_of_error hread _).mono (Nat.le_succ i)
  | ok reading =>
    obtain ⟨j, hlt, hrest, hscan⟩ := htracks.eq_pure hread
    rw [hscan, pure_bind]
    exact .advances (Nat.lt_of_succ_lt hlt) hrest rfl rfl

/-- A unary pattern is scanned as it is read, when what stands in parentheses is. -/
theorem tracks_scanUnary (hinner : inner.TrackedBy text 8 (scanChain text .or)) {cs : List Char}
    (h : cs.length < bound + 1) (hdepth : 8 * cs.length + 2 ≤ depth) (hleft : LeftAt text i cs) :
    Tracks text i (scanUnary text depth i) (readUnary inner cs h) := by
  -- The induction is on the depth: every negation takes one call and one character.
  induction depth generalizing i cs with
  | zero => omega
  | succ depth ih =>
    obtain ⟨j, hpass, hblank, hle⟩ := hleft.exists_passBlanks
    have hlength := Text.length_skipBlanks_le cs
    have hskip : Text.skipBlanks (Text.skipBlanks cs) = Text.skipBlanks cs :=
      Text.skipBlanks_skipBlanks cs
    rw [scanUnary, hpass, pure_bind, readUnary_of_skipBlanks rfl h (Nat.lt_of_le_of_lt hlength h)]
    generalize Text.skipBlanks cs = rest at *
    refine Tracks.mono ?_ hle
    by_cases hnot : ['!'] <+: rest
    · obtain ⟨tail, rfl⟩ := hnot
      have htail : tail.length < cs.length := hlength
      have htracks := ih (Nat.lt_trans htail h) (by omega) hblank.next
      rw [if_pos (hblank.standsAt_iff.mpr ⟨tail, rfl⟩)]
      exact tracks_negation htracks _
    · rw [if_neg (hblank.standsAt_iff.not.mpr hnot), readUnary_of_not_negation hskip hnot]
      obtain ⟨deeper, rfl⟩ := Nat.exists_eq_add_of_le' (show 1 ≤ depth by omega)
      exact tracks_scanPrimary hinner hskip _ (by omega) hblank

/-- An operand is scanned one call deeper than what it consists of. -/
theorem trackedBy_scanOperand {scan : Nat → Nat → Scan (Pattern × Nat)}
    (hoperand : operand.TrackedBy text level scan)
    (hscan : ∀ depth i, scanOperand text o (depth + 1) i = scan depth i) :
    operand.TrackedBy text (level + 1) (scanOperand text o) := by
  intro depth i cs h hdepth hleft
  obtain ⟨deeper, rfl⟩ := Nat.exists_eq_add_of_le' (show 1 ≤ depth by omega)
  rw [hscan]
  exact hoperand deeper i cs h (by omega) hleft

/-- The operands of "or" are scanned as they are read, when what stands in parentheses is. -/
theorem trackedBy_conjunction (hinner : inner.TrackedBy text 8 (scanChain text .or)) :
    (chainReader '&' conjoin (unaryReader inner)).TrackedBy text 5 (scanChain text .and) := by
  have hunary : (unaryReader inner).TrackedBy text 2 (scanUnary text) :=
    fun depth i cs h hdepth hleft => tracks_scanUnary hinner h hdepth hleft
  exact trackedBy_chainReader (o := .and) (trackedBy_scanOperand hunary fun _ _ =>
    by rw [scanOperand])

/-- Patterns are scanned as they are read, whatever the bound of their reader. -/
theorem trackedBy_reader (bound : Nat) : (reader bound).TrackedBy text 8 (scanChain text .or) := by
  -- What stands in parentheses is shorter, so its reader has a smaller bound.
  induction bound with
  | zero => exact fun _ _ _ h => absurd h (Nat.not_lt_zero _)
  | succ bound ih =>
    refine trackedBy_chainReader (o := .or) (trackedBy_scanOperand (trackedBy_conjunction ih)
      fun _ _ => ?_)
    rw [scanOperand]

/-! ## Parts and whole patterns -/

/-- The parts of a pattern that are read from a position on. -/
inductive Part where
  | chain (o : Operator)
  | unary
  | primary
  | term
  deriving DecidableEq, Repr

/-- Scans a part of a pattern from a position on, with calls of some depth. -/
def Part.scan (text : List Char) (depth : Nat) : Part → Nat → Scan (Pattern × Nat)
  | .chain o => scanChain text o depth
  | .unary => scanUnary text depth
  | .primary => scanPrimary text depth
  | .term => scanTerm text

/-- The reader for texts up to the length of a text can read it. -/
theorem length_lt_bound (cs : List Char) : cs.length < cs.length + 1 := Nat.lt_succ_self _

/-- Reads a part of a pattern at the start of what is left. -/
def Part.read : Part → List Char → Reading Pattern
  | .chain .or, cs => (reader (cs.length + 1)).read cs (length_lt_bound cs)
  | .chain .and, cs =>
    (chainReader '&' conjoin (unaryReader (reader cs.length))).read cs (length_lt_bound cs)
  | .unary, cs => readUnary (reader cs.length) cs (length_lt_bound cs)
  | .primary, cs =>
    readPrimary (reader (Text.skipBlanks cs).length) (Text.skipBlanks cs) (length_lt_bound _)
  | .term, cs => readTerm cs

/-- Every part is scanned as it is read; a term needs a character to start with. -/
theorem tracks_part (part : Part) (hdepth : 8 * (cs.length + 1) ≤ depth) (h : LeftAt text i cs)
    (hterm : part = .term → cs ≠ []) : Tracks text i (part.scan text depth i) (part.read cs) := by
  -- Each part has the depth that it needs at its level, which is eight at most.
  cases part with
  | chain o =>
    cases o with
    | or => exact trackedBy_reader _ depth i cs _ (by omega) h
    | and => exact trackedBy_conjunction (trackedBy_reader _) depth i cs _ (by omega) h
  | unary => exact tracks_scanUnary (trackedBy_reader _) _ (by omega) h
  | primary =>
    have hlength := Text.length_skipBlanks_le cs
    obtain ⟨deeper, rfl⟩ := Nat.exists_eq_add_of_le' (show 1 ≤ depth by omega)
    exact tracks_scanPrimary (trackedBy_reader _) rfl _ (by omega) h
  | term =>
    obtain ⟨c, rest, rfl⟩ := List.exists_cons_of_ne_nil (hterm rfl)
    exact tracks_scanTerm h

/-- A term that is looked for at the end of a text asks for a character that the text does not
have. -/
theorem scanTerm_length (text : List Char) :
    scanTerm text text.length = throw (.overrun text.length) := by
  have h : LeftAt text text.length [] := ⟨Nat.le_refl _, List.drop_length⟩
  obtain ⟨j, hpass, hrest, -, hbetween⟩ := h.exists_pass Text.isLetter
  have hj : j = text.length := by simpa using hrest.length_eq
  subst hj
  have hlook : lookAt text text.length = throw (.overrun text.length) := by simp [lookAt]
  rw [scanTerm, hpass, pure_bind, hbetween, hlook]
  rfl

/-- A whole text is scanned as it is read. -/
theorem scanWhole_eq (text : List Char) (hdepth : 8 * (text.length + 1) ≤ depth) :
    (∃ p, scanWhole text depth = pure p ∧ readWhole text = .ok p) ∨
      ∃ fault j rest, LeftAt text j rest ∧ scanWhole text depth = throw (.fault fault j) ∧
        readWhole text = .error ⟨fault, rest.length⟩ := by
  have hstart : LeftAt text 0 text := ⟨Nat.zero_le _, rfl⟩
  obtain ⟨i, hpass, hblank, -⟩ := hstart.exists_passBlanks
  rw [scanWhole, hpass, pure_bind, readWhole]
  -- A text may be blank, hold no pattern at its start, or go on behind its pattern.
  cases hskip : Text.skipBlanks text with
  | nil =>
    rw [hskip] at hblank
    rw [if_neg hblank.not_lt_length]
    exact .inr ⟨_, i, [], hblank, rfl, rfl⟩
  | cons c cs =>
    rw [hskip] at hblank
    rw [if_pos hblank.lt_length]
    have hlength := hblank.length_eq
    have htracks := trackedBy_reader ((c :: cs).length + 1) depth i (c :: cs) (Nat.lt_succ_self _)
      (by omega) hblank
    simp only
    cases hread : (reader ((c :: cs).length + 1)).read (c :: cs) (Nat.lt_succ_self _) with
    | error failure =>
      obtain ⟨fault, j, rest, -, hrest, hscan, rfl⟩ := htracks.eq_throw hread
      exact .inr ⟨fault, j, rest, hrest, by rw [hscan, throw_bind], rfl⟩
    | ok reading =>
      obtain ⟨j, -, hrest, hscan⟩ := htracks.eq_pure hread
      obtain ⟨k, hpass', hblank', -⟩ := hrest.exists_passBlanks
      rw [hscan, pure_bind]
      simp only [hpass', pure_bind]
      cases hend : Text.skipBlanks reading.2 with
      | nil =>
        rw [hend] at hblank'
        rw [if_neg hblank'.not_lt_length]
        exact .inl ⟨reading.1, rfl, rfl⟩
      | cons d more =>
        rw [hend] at hblank'
        rw [if_pos hblank'.lt_length, hblank'.lookAt_eq, pure_bind]
        exact .inr ⟨_, k, d :: more, hblank', rfl, rfl⟩

/-- Reading always advances and stays in the text. From every position of a text each part of a
pattern, a term from every position before the end, is read to a position further on or fails at one
that is no further back; the scan of it ends there too, without asking for a character that the text
does not have. A whole text is scanned to its end or to a fault, and the column of the fault is that
of a character or one behind the last. Calls that nest eight deep for each character and for the end
of the text are enough for all these scans, and going deeper changes nothing. -/
theorem scan_advances (text : String) {depth : Nat} (hdepth : 8 * (text.length + 1) ≤ depth) :
    (∀ (part : Part) (i : Nat), i ≤ text.length → (part = .term → i < text.length) →
      (∃ p j, i < j ∧ j ≤ text.length ∧ (part.scan text.toList depth i).run = some (.ok (p, j)) ∧
          part.read (text.toList.drop i) = .ok (p, text.toList.drop j)) ∨
        ∃ fault j, i ≤ j ∧ j ≤ text.length ∧ (part.scan text.toList depth i).run =
          some (.error (.fault fault j)) ∧
            part.read (text.toList.drop i) = .error ⟨fault, text.length - j⟩) ∧
      ((∃ p, (scanWhole text.toList depth).run = some (.ok p) ∧ parse text = .ok p) ∨
        ∃ fault column, 1 ≤ column ∧ column ≤ text.length + 1 ∧
          (scanWhole text.toList depth).run = some (.error (.fault fault (column - 1))) ∧
            parse text = .error ⟨fault, column⟩) := by
  have hlength : text.toList.length = text.length := String.length_toList
  constructor
  · intro part i hi hterm
    have hleft : LeftAt text.toList i (text.toList.drop i) := ⟨hlength ▸ hi, rfl⟩
    have hne : part = .term → text.toList.drop i ≠ [] := by
      intro hpart hnil
      have hle := List.drop_eq_nil_iff.mp hnil
      have hlt := hterm hpart
      omega
    have hroom : 8 * ((text.toList.drop i).length + 1) ≤ depth := by
      rw [List.length_drop]
      omega
    cases tracks_part part hroom hleft hne with
    | advances hlt hrest hscan hread =>
      refine .inl ⟨_, _, hlt, hlength ▸ hrest.le_length, hscan, ?_⟩
      rw [hread, hrest.drop_eq]
    | @stops fault j rest hle hrest hscan hread =>
      have hremaining : rest.length = text.length - j := by
        have hsum := hrest.length_eq
        omega
      refine .inr ⟨_, _, hle, hlength ▸ hrest.le_length, hscan, ?_⟩
      rw [hread, hremaining]
  · rcases scanWhole_eq text.toList (hlength ▸ hdepth) with ⟨p, hscan, hread⟩
      | ⟨fault, j, rest, hrest, hscan, hread⟩
    · exact .inl ⟨p, hscan, by rw [parse, hread]⟩
    · have hsum := hrest.length_eq
      refine .inr ⟨fault, j + 1, by omega, by omega, hscan, ?_⟩
      have hcolumn : text.toList.length - rest.length + 1 = j + 1 := by omega
      simp only [parse, hread, hcolumn]

/-- The term behind a parenthesis that nothing closes is scanned up to the end of the text. -/
theorem scan_unclosed : 8 * ("!(src[ a ]:b".length + 1) ≤ 104 ∧ 2 < "!(src[ a ]:b".length ∧
    ∃ p, (Part.term.scan "!(src[ a ]:b".toList 104 2).run = some (.ok (p, 12)) := by
  refine ⟨by decide, by decide, ?_⟩
  have hterm : DerivesTerm ("!(src[ a ]:b".toList.drop 2)
      (.term .src (some " a ".toList) "b".toList) [] :=
    @DerivesTerm.inModule .src " a ".toList "b".toList [] (by decide)
      (fun h => absurd (h 'a' (by decide)) (by decide))
      ⟨by decide, not_mem_globStops_of_all (by decide), by simp⟩
  have hreads := readTerm_eq_ok.mpr ⟨_, hterm, rfl⟩
  rcases (scan_advances "!(src[ a ]:b" (show _ ≤ 104 by decide)).1 .term 2 (by decide)
    (fun _ => by decide) with
    ⟨p, j, -, hle, hscan, hread⟩ | ⟨fault, j, -, -, -, hread⟩
  · -- Nothing is left behind the term, so the scan went to the end.
    have hrest : "!(src[ a ]:b".toList.drop j = [] :=
      congrArg Prod.snd (Except.ok.inj (hread.symm.trans hreads))
    have hge : 12 ≤ j := List.drop_eq_nil_iff.mp hrest
    obtain rfl : j = 12 := Nat.le_antisymm hle hge
    exact ⟨p, hscan⟩
  · cases hread.symm.trans hreads

end ScopeAlgebra.Pattern
