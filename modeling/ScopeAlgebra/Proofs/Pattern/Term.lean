import ScopeAlgebra.Proofs.Pattern.Phrase

/-!
# Terms are read by their grammar

A reader of a term takes the longest run of letters, the text up to the first closing bracket and
the longest glob. As no kind, module or glob can be continued by what may follow it, this finds
every derivation: `readTerm_eq_ok` says that a term is read exactly when one derives it.
-/

namespace ScopeAlgebra.Pattern

/-- The longest run of characters of a class ends where a character outside of it stands. -/
theorem span_append {p : Char → Bool} {l r : List Char} (hl : ∀ c ∈ l, p c = true)
    (hr : ∀ c, r.head? = some c → p c = false) :
    (l ++ r).takeWhile p = l ∧ (l ++ r).dropWhile p = r := by
  rw [List.takeWhile_append_of_pos hl, List.dropWhile_append_of_pos hl]
  cases r with
  | nil => simp
  | cons c r => simp [hr c rfl]

/-- What stands behind the longest run of characters of a class starts outside of the class. -/
theorem head?_dropWhile {p : Char → Bool} {cs : List Char} {c : Char}
    (h : (cs.dropWhile p).head? = some c) : p c = false := by
  have hhead := List.head?_dropWhile_not p cs
  rw [h] at hhead
  simpa using hhead

/-! ## Globs and colons -/

/-- The test for the end of a glob is whether the character is listed. -/
theorem endsGlob_iff {c : Char} : endsGlob c = true ↔ c ∈ globStops := by
  simp [endsGlob, globStops, or_assoc]

/-- A character that does not end a glob is not listed. -/
theorem endsGlob_eq_false_iff {c : Char} : endsGlob c = false ↔ c ∉ globStops := by
  rw [← endsGlob_iff, Bool.not_eq_true]

/-- A text without a character that ends a glob, tested character by character. -/
theorem not_mem_globStops_of_all {glob : List Char} (h : glob.all (!endsGlob ·) = true) :
    ∀ c ∈ glob, c ∉ globStops := by
  intro c hc
  have hends := List.all_eq_true.mp h c hc
  exact endsGlob_eq_false_iff.mp (by simpa using hends)

variable {kind : TermKind} {module? : Option String} {cs rest : List Char} {p : Pattern}

/-- A glob is read up to the first character that ends one. -/
theorem readGlob_eq_ok :
    readGlob kind module? cs = .ok (p, rest) ↔
    ∃ glob, cs = glob ++ rest ∧ GlobBefore glob rest ∧
      p = .term ⟨kind, module?, String.ofList glob⟩ := by
  constructor
  · intro h
    unfold readGlob at h
    split at h
    · contradiction
    next hne =>
      cases h
      refine ⟨cs.takeWhile (!endsGlob ·), List.takeWhile_append_dropWhile.symm, ⟨hne, ?_, ?_⟩, rfl⟩
      · intro c hc
        exact endsGlob_eq_false_iff.mp (by simpa using List.mem_takeWhile_imp hc)
      · intro c hc
        exact endsGlob_iff.mp (by simpa using head?_dropWhile hc)
  · rintro ⟨glob, rfl, hglob, rfl⟩
    obtain ⟨htake, hdrop⟩ := span_append (p := (!endsGlob ·)) (l := glob) (r := rest)
      (fun c hc => by simpa using endsGlob_eq_false_iff.mpr (hglob.within c hc))
      (fun c hc => by simpa using endsGlob_iff.mpr (hglob.ended c hc))
    unfold readGlob
    split
    next hnil => exact absurd (htake.symm.trans hnil) hglob.ne_nil
    · rw [htake, hdrop]

/-- A colon stands in front of the glob. -/
theorem readColon_eq_ok {head : List Char} : readColon kind module? head cs = .ok (p, rest) ↔
    ∃ glob, cs = ':' :: (glob ++ rest) ∧ GlobBefore glob rest ∧
      p = .term ⟨kind, module?, String.ofList glob⟩ := by
  unfold readColon
  split
  next behind => simp [readGlob_eq_ok]
  next hcolon =>
    refine ⟨fun h => by contradiction, ?_⟩
    rintro ⟨glob, rfl, -, -⟩
    exact absurd rfl (hcolon _)

/-! ## Modules -/

/-- What follows a kind is a colon and a glob, with or without a module in brackets in front of
them. -/
theorem readModule_eq_ok :
    readModule kind cs = .ok (p, rest) ↔
    (∃ glob, cs = ':' :: (glob ++ rest) ∧ GlobBefore glob rest ∧
      p = .term ⟨kind, none, String.ofList glob⟩) ∨
    ∃ m glob, cs = '[' :: (m ++ ']' :: ':' :: (glob ++ rest)) ∧ ']' ∉ m ∧ ¬ Text.Blanks m ∧
      GlobBefore glob rest ∧
        p = .term ⟨kind, some (String.ofList (Text.trimChars m)), String.ofList glob⟩ := by
  constructor
  · intro h
    unfold readModule at h
    split at h
    next inner =>
      split at h
      · contradiction
      next c after hdrop =>
        simp only at h
        split at h
        · contradiction
        next hblank =>
          obtain ⟨glob, rfl, hglob, rfl⟩ := readColon_eq_ok.mp h
          -- The text up to the first closing bracket is the module, so the bracket is what was
          -- dropped to.
          have hhead : (inner.dropWhile (· ≠ ']')).head? = some c := by rw [hdrop]; rfl
          obtain rfl : c = ']' := by simpa using head?_dropWhile hhead
          have hinner : inner = inner.takeWhile (· ≠ ']') ++ ']' :: ':' :: (glob ++ rest) := by
            rw [← hdrop, List.takeWhile_append_dropWhile]
          refine .inr ⟨inner.takeWhile (· ≠ ']'), glob, by rw [← hinner], ?_, ?_, hglob, rfl⟩
          · exact fun hmem => by simpa using List.mem_takeWhile_imp hmem
          · exact fun hw => hblank (Text.trimChars_eq_nil_iff.mpr hw)
    · exact .inl (readColon_eq_ok.mp h)
  · rintro (⟨glob, rfl, hglob, rfl⟩ | ⟨m, glob, rfl, hm, hblank, hglob, rfl⟩)
    · simp only [readModule]
      exact readColon_eq_ok.mpr ⟨glob, rfl, hglob, rfl⟩
    · obtain ⟨htake, hdrop⟩ := span_append (p := fun c => decide (c ≠ ']')) (l := m)
        (r := ']' :: ':' :: (glob ++ rest))
        (fun c hc => decide_eq_true fun h => hm (h ▸ hc)) (by simp)
      simp only [readModule, hdrop, htake]
      split
      next hnil => exact absurd (Text.trimChars_eq_nil_iff.mp hnil) hblank
      · exact readColon_eq_ok.mpr ⟨glob, rfl, hglob, rfl⟩

/-! ## Terms -/

/-- Kinds are written in letters. -/
theorem isLetter_of_mem_word {c : Char} (h : c ∈ (word kind).toList) : Text.isLetter c = true := by
  have hall : (word kind).toList.all Text.isLetter = true := by
    cases kind <;> decide
  exact List.all_eq_true.mp hall c h

/-- A text of letters is read as the kind that it is the word of. -/
theorem ofWord?_ofList {letters : List Char} :
    Vocabulary.ofWord? (String.ofList letters) = some kind ↔ letters = (word kind).toList := by
  constructor
  · intro h
    rw [Vocabulary.word_of_ofWord? h, String.toList_ofList]
  · rintro rfl
    rw [String.ofList_toList, Vocabulary.ofWord?_word]

/-- Behind the word of a kind, which no letter continues, the reader goes on with the module. -/
theorem readTerm_of_word {c : Char} {behind : List Char} (hcs : behind.head? = some c)
    (hc : Text.isLetter c = false) :
    readTerm ((word kind).toList ++ behind) = readModule kind behind := by
  obtain ⟨htake, hdrop⟩ := span_append (p := Text.isLetter) (l := (word kind).toList) (r := behind)
    (fun c h => isLetter_of_mem_word h) (fun d hd => by rwa [Option.some.inj (hd.symm.trans hcs)])
  unfold readTerm
  -- A kind has letters, so the run of letters is not empty.
  split
  next hnil =>
    rw [htake] at hnil
    cases kind <;> contradiction
  · have hkind : Vocabulary.ofWord? (String.ofList (word kind).toList) = some kind :=
      ofWord?_ofList.mpr rfl
    simp only [htake, hdrop, hkind]

/-- A term is read exactly when the grammar derives it. -/
theorem readTerm_eq_ok :
    readTerm cs = .ok (p, rest) ↔ ∃ d, DerivesTerm cs d rest ∧ d.toPattern = p := by
  constructor
  · intro h
    unfold readTerm at h
    split at h
    · split at h <;> contradiction
    · simp only at h
      split at h
      · contradiction
      next kind hkind =>
        have hcs : cs = (word kind).toList ++ cs.dropWhile Text.isLetter := by
          rw [← ofWord?_ofList.mp hkind, List.takeWhile_append_dropWhile]
        rw [hcs]
        rcases readModule_eq_ok.mp h with ⟨glob, hrest, hglob, rfl⟩
          | ⟨m, glob, hrest, hm, hblank, hglob, rfl⟩
        · rw [hrest]
          exact ⟨_, .anywhere hglob, rfl⟩
        · rw [hrest]
          exact ⟨_, .inModule hm hblank hglob, rfl⟩
  · rintro ⟨d, hd, rfl⟩
    cases hd with
    | anywhere hglob =>
      rw [readTerm_of_word rfl (by decide +kernel)]
      exact readModule_eq_ok.mpr (.inl ⟨_, rfl, hglob, rfl⟩)
    | inModule hm hblank hglob =>
      rw [readTerm_of_word rfl (by decide +kernel)]
      exact readModule_eq_ok.mpr (.inr ⟨_, _, rfl, hm, hblank, hglob, rfl⟩)

end ScopeAlgebra.Pattern
