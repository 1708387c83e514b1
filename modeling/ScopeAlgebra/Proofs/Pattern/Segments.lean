import ScopeAlgebra.Proofs.Pattern.Glob

/-!
# Globs segment by segment

A glob without `**` never takes a slash for a wildcard, so its slashes are those of the path and
each of its segments matches the segment between them. With `**/` in front a glob may start behind
any slash (`isMatch_segments`).
-/

namespace ScopeAlgebra.Glob

/-- The segments of a text, between its slashes. -/
def segments (s : String) : List String := (s.toList.splitOn '/').map String.ofList

/-- No two stars stand side by side. -/
def StarsApart (glob : List Char) : Prop := ¬ ['*', '*'] <:+: glob

instance (glob : List Char) : Decidable (StarsApart glob) := inferInstanceAs (Decidable (¬ _))

variable {glob path segment rest : List Char}

/-! ## Pieces of a segment -/

/-- Stars that stand apart in a glob do so on both sides of a slash. -/
theorem StarsApart.of_append (h : StarsApart (segment ++ '/' :: rest)) :
    StarsApart segment ∧ StarsApart rest :=
  ⟨fun hstars => h (hstars.trans ⟨[], '/' :: rest, rfl⟩),
    fun hstars => h (hstars.trans ⟨segment ++ ['/'], [], by simp⟩)⟩

/-- Stars that stand apart do so behind the first character. -/
theorem StarsApart.of_cons {c : Char} (h : StarsApart (c :: rest)) : StarsApart rest :=
  fun hstars => h (hstars.trans ⟨[c], [], by simp⟩)

/-- Two stars in front stand side by side. -/
theorem not_starsApart : ¬ StarsApart ('*' :: '*' :: rest) := fun h => h ⟨[], rest, rfl⟩

/-- Pieces do not reach beyond a slash. -/
theorem pieces_append_slash (h : StarsApart segment) (rest : List Char) :
    pieces (segment ++ '/' :: rest) = pieces segment ++ .literal '/' :: pieces rest := by
  -- The cases are those of `pieces`; the two with a pair of stars are excluded.
  fun_induction pieces segment with
  | case1 | case2 => exact absurd h not_starsApart
  | case3 glob _ hstar ih =>
    have hnext : ∀ more, glob ++ '/' :: rest ≠ '*' :: more := by
      rintro more heq
      cases glob with
      | nil => simp at heq
      | cons c glob => exact hstar glob (by rw [(List.cons.inj heq).1])
    rw [List.cons_append, pieces.eq_3 _ (fun _ => hnext _) hnext, ih h.of_cons, List.cons_append]
  | case4 glob ih => rw [List.cons_append, pieces, ih h.of_cons, List.cons_append]
  | case5 c glob _ _ hstar hquestion ih =>
    rw [List.cons_append, pieces.eq_5 _ _ (fun _ h => absurd h hstar) (fun _ h => absurd h hstar)
      hstar hquestion, ih h.of_cons, List.cons_append]
  | case6 => simp [pieces]

/-- A segment matches only what has no slash. -/
theorem slash_not_mem_of_matches (hstars : StarsApart segment) (hslash : '/' ∉ segment)
    (h : Matches (pieces segment) path) : '/' ∉ path := by
  -- Of the pieces that are left when stars stand apart, none takes a slash.
  fun_induction pieces segment generalizing path with
  | case1 | case2 => exact absurd hstars not_starsApart
  | case3 glob _ _ ih =>
    obtain ⟨text, rest, htext, hrest, rfl⟩ := matches_cons.mp h
    exact List.not_mem_append htext (ih hstars.of_cons (List.not_mem_of_not_mem_cons hslash) hrest)
  | case4 glob ih =>
    obtain ⟨_, rest, ⟨c, hc, rfl⟩, hrest, rfl⟩ := matches_cons.mp h
    exact List.not_mem_cons_of_ne_of_not_mem hc.symm
      (ih hstars.of_cons (List.not_mem_of_not_mem_cons hslash) hrest)
  | case5 c glob _ _ _ _ ih =>
    obtain ⟨_, rest, rfl, hrest, rfl⟩ := matches_cons.mp h
    exact List.not_mem_cons_of_ne_of_not_mem (List.ne_of_not_mem_cons hslash)
      (ih hstars.of_cons (List.not_mem_of_not_mem_cons hslash) hrest)
  | case6 =>
    rw [matches_nil.mp h]
    exact List.not_mem_nil

/-! ## Segments of a path -/

/-- A glob that starts with a segment matches what starts with a segment that this one matches. -/
theorem matches_segment_iff (hstars : StarsApart segment) :
    Matches (pieces (segment ++ '/' :: rest)) path ↔
      ∃ before after, Matches (pieces segment) before ∧ Matches (pieces rest) after ∧
        path = before ++ '/' :: after := by
  rw [pieces_append_slash hstars, matches_append]
  constructor
  · rintro ⟨before, _, hbefore, h, rfl⟩
    obtain ⟨_, after, rfl, hafter, rfl⟩ := matches_cons.mp h
    exact ⟨before, after, hbefore, hafter, rfl⟩
  · rintro ⟨before, after, hbefore, hafter, rfl⟩
    exact ⟨before, '/' :: after, hbefore, matches_cons.mpr ⟨['/'], after, rfl, hafter, rfl⟩, rfl⟩

/-- A text is one segment, or it is cut behind its first one. -/
theorem splitOn_cases (text : List Char) :
    '/' ∉ text ∧ text.splitOn '/' = [text] ∨
      ∃ first rest, text = first ++ '/' :: rest ∧ '/' ∉ first ∧
        text.splitOn '/' = first :: rest.splitOn '/' := by
  by_cases hslash : '/' ∈ text
  · obtain ⟨first, rest, rfl, hfirst⟩ := List.eq_append_cons_of_mem hslash
    exact .inr ⟨first, rest, rfl, hfirst, List.splitOn_append_cons_self_of_not_mem hfirst rest⟩
  · exact .inl ⟨hslash, List.splitOn_eq_singleton hslash⟩

/-- A glob and a path match when they have as many segments and each matches the one in its
place. -/
theorem matches_iff_segments (hstars : StarsApart glob) :
    Matches (pieces glob) path ↔
      List.Forall₂ (fun g p => Matches (pieces g) p) (glob.splitOn '/') (path.splitOn '/') := by
  -- The induction is on the segments of the glob, that is on what is left behind its first slash.
  induction hlength : glob.length using Nat.strongRecOn generalizing glob path with
  | ind length ih =>
  rcases splitOn_cases glob with ⟨hglob, hone⟩ | ⟨segment, rest, rfl, hsegment, hmore⟩
  -- A glob of one segment takes no slash, so the path is one segment too.
  · rw [hone]
    constructor
    · intro h
      rw [List.splitOn_eq_singleton (slash_not_mem_of_matches hstars hglob h)]
      exact .cons h .nil
    · intro h
      rcases splitOn_cases path with ⟨-, hpath⟩ | ⟨before, after, rfl, -, hpath⟩
      · rw [hpath] at h
        exact (List.forall₂_cons.mp h).1
      · rw [hpath] at h
        exact absurd (List.forall₂_nil_left_iff.mp (List.forall₂_cons.mp h).2)
          (List.splitOn_ne_nil _ _)
  · have hshorter : rest.length < length := by
      rw [← hlength, List.length_append, List.length_cons]
      omega
    have hrest {after : List Char} : Matches (pieces rest) after ↔
        List.Forall₂ (fun g p => Matches (pieces g) p) (rest.splitOn '/') (after.splitOn '/') :=
      ih rest.length hshorter hstars.of_append.2 rfl
    rw [matches_segment_iff hstars.of_append.1, hmore]
    constructor
    · rintro ⟨before, after, hbefore, hafter, rfl⟩
      have hslash := slash_not_mem_of_matches hstars.of_append.1 hsegment hbefore
      rw [List.splitOn_append_cons_self_of_not_mem hslash]
      exact .cons hbefore (hrest.mp hafter)
    · intro h
      rcases splitOn_cases path with ⟨-, hpath⟩ | ⟨before, after, rfl, -, hpath⟩
      · -- A path in one piece cannot match two segments.
        rw [hpath] at h
        exact absurd (List.forall₂_nil_right_iff.mp (List.forall₂_cons.mp h).2)
          (List.splitOn_ne_nil _ _)
      · rw [hpath] at h
        obtain ⟨hfirst, hmore⟩ := List.forall₂_cons.mp h
        exact ⟨before, after, hfirst, hrest.mpr hmore, rfl⟩

/-! ## Directories in front -/

/-- Behind `**/` a glob starts at the path or, as long as no line ends, behind one of its
slashes. -/
theorem matches_directories (hline : '\n' ∉ path) :
    Matches (.directories :: pieces glob) path ↔
      Matches (pieces glob) path ∨ ∃ before after, path = before ++ '/' :: after ∧
        Matches (pieces glob) after := by
  rw [matches_cons]
  constructor
  · rintro ⟨_, rest, rfl | ⟨run, -, rfl⟩, hrest, rfl⟩
    · exact .inl hrest
    · exact .inr ⟨run, rest, by simp, hrest⟩
  · rintro (h | ⟨before, after, rfl, h⟩)
    · exact ⟨[], path, .inl rfl, h, rfl⟩
    · have hbefore : '\n' ∉ before := fun hmem => hline (List.mem_append_left _ hmem)
      exact ⟨before ++ ['/'], after, .inr ⟨before, hbefore, rfl⟩, h, by simp⟩

/-- A glob without `**` matches a path exactly when both have as many segments and each segment of
the glob matches the one in its place. With `**/` in front, a glob matches a path on one line
exactly when it matches the path itself or what follows one of its slashes. -/
theorem isMatch_segments :
    (∀ glob path : String, StarsApart glob.toList →
        (isMatch glob path = true ↔
          List.Forall₂ (fun g p => isMatch g p = true) (segments glob) (segments path))) ∧
      ∀ glob path : String, '\n' ∉ path.toList →
        (isMatch ("**/" ++ glob) path = true ↔
          isMatch glob path = true ∨
            ∃ before after : String, path = before ++ "/" ++ after ∧
              isMatch glob after = true) := by
  refine ⟨fun glob path hstars => ?_, fun glob path hline => ?_⟩
  · simp only [segments, List.forall₂_map_left_iff, List.forall₂_map_right_iff, isMatch_iff,
      String.toList_ofList]
    exact matches_iff_segments hstars
  · have hpieces : pieces ("**/" ++ glob).toList = .directories :: pieces glob.toList := by
      rw [String.toList_append]
      rfl
    rw [isMatch_iff, isMatch_iff, hpieces, matches_directories hline]
    refine or_congr_right ⟨?_, ?_⟩
    · rintro ⟨before, after, hpath, h⟩
      refine ⟨String.ofList before, String.ofList after, ?_,
        by rwa [isMatch_iff, String.toList_ofList]⟩
      rw [← String.toList_inj]
      simpa using hpath
    · rintro ⟨before, after, rfl, h⟩
      exact ⟨before.toList, after.toList, by simp, isMatch_iff.mp h⟩

/-- A glob of two segments, matched segment by segment and then below a directory. -/
theorem isMatch_nested :
    StarsApart "src/*.py".toList ∧ '\n' ∉ "app/src/a.py".toList ∧
      isMatch "src/*.py" "src/a.py" = true ∧ isMatch "**/src/*.py" "app/src/a.py" = true := by
  have hstars : StarsApart "src/*.py".toList := by decide +kernel
  have hline : '\n' ∉ "app/src/a.py".toList := by decide
  have hfile : isMatch "src/*.py" "src/a.py" = true := by
    have hglob : segments "src/*.py" = ["src", "*.py"] := by decide
    have hpath : segments "src/a.py" = ["src", "a.py"] := by decide
    rw [isMatch_segments.1 _ _ hstars, hglob, hpath]
    exact .cons (by decide) (.cons (by decide) .nil)
  exact ⟨hstars, hline, hfile,
    (isMatch_segments.2 "src/*.py" _ hline).mpr (.inr ⟨"app", "src/a.py", rfl, hfile⟩)⟩

end ScopeAlgebra.Glob
