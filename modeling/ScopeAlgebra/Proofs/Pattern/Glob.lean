import Mathlib.Data.List.Forall2
import ScopeAlgebra.Pattern.Glob

/-!
# What globs match

`Reads` says how a glob is cut into pieces, the longest one at every position first, and
`Piece.Takes` which texts a piece stands for. A glob is read in one way, and it matches exactly the
paths that are put together from one text for each of its pieces (`isMatch_iff_takes`).
-/

namespace ScopeAlgebra.Glob

variable {glob path : List Char} {piece : Piece} {ps qs : List Piece}

/-! ## Reading a glob -/

/-- A glob is cut into pieces from left to right, the longest piece that stands there first. -/
inductive Reads : List Char → List Piece → Prop where
  | nil : Reads [] []
  | directories {glob : List Char} {ps : List Piece} (h : Reads glob ps) :
    Reads ('*' :: '*' :: '/' :: glob) (.directories :: ps)
  | anything {glob : List Char} {ps : List Piece} (hslash : ∀ rest, glob ≠ '/' :: rest)
    (h : Reads glob ps) :
    Reads ('*' :: '*' :: glob) (.anything :: ps)
  | segment {glob : List Char} {ps : List Piece} (hstar : ∀ rest, glob ≠ '*' :: rest)
    (h : Reads glob ps) :
    Reads ('*' :: glob) (.segment :: ps)
  | one {glob : List Char} {ps : List Piece} (h : Reads glob ps) : Reads ('?' :: glob) (.one :: ps)
  | literal {c : Char} {glob : List Char} {ps : List Piece} (hstar : c ≠ '*') (hquestion : c ≠ '?')
    (h : Reads glob ps) : Reads (c :: glob) (.literal c :: ps)

/-- The pieces of a glob are a reading of it. -/
theorem reads_pieces (glob : List Char) : Reads glob (pieces glob) := by
  fun_induction pieces glob with
  | case1 glob ih => exact .directories ih
  | case2 glob hslash ih => exact .anything hslash ih
  | case3 glob _ hstar ih => exact .segment hstar ih
  | case4 glob ih => exact .one ih
  | case5 c glob _ _ hstar hquestion ih => exact .literal hstar hquestion ih
  | case6 => exact .nil

/-- The pieces of a glob are the only ones that it can be cut into. -/
theorem reads_iff : Reads glob ps ↔ ps = pieces glob := by
  constructor
  · intro h
    -- Each step of a reading meets the equation of `pieces` whose side conditions it has checked.
    induction h with
    | nil => rfl
    | directories _ ih => rw [pieces, ih]
    | anything hslash _ ih => rw [pieces.eq_2 _ hslash, ih]
    | segment hstar _ ih => rw [pieces.eq_3 _ (fun _ => hstar _) hstar, ih]
    | one _ ih => rw [pieces, ih]
    | literal hstar hquestion _ ih =>
      rw [pieces.eq_5 _ _ (fun _ h => absurd h hstar) (fun _ h => absurd h hstar) hstar hquestion,
        ih]
  · rintro rfl
    exact reads_pieces glob

example : pieces "***/a".toList = [.anything, .segment, .literal '/', .literal 'a'] := by decide

/-! ## What pieces take -/

/-- The texts that a piece stands for. -/
def Piece.Takes : Piece → List Char → Prop
  | .directories, text => text = [] ∨ ∃ run, '\n' ∉ run ∧ text = run ++ ['/']
  | .anything, text => '\n' ∉ text
  | .segment, text => '/' ∉ text
  | .one, text => ∃ c, c ≠ '/' ∧ text = [c]
  | .literal c, text => text = [c]

/-- A path is put together from one text for each piece. -/
def Matches (ps : List Piece) (path : List Char) : Prop :=
  ∃ texts, List.Forall₂ Piece.Takes ps texts ∧ texts.flatten = path

/-- Without pieces only the empty path matches. -/
theorem matches_nil : Matches [] path ↔ path = [] := by
  constructor
  · rintro ⟨texts, hall, rfl⟩
    rw [List.forall₂_nil_left_iff.mp hall, List.flatten_nil]
  · rintro rfl
    exact ⟨[], .nil, rfl⟩

/-- The first piece takes the front of the path, and the others match what is left. -/
theorem matches_cons :
    Matches (piece :: ps) path ↔
      ∃ text rest, piece.Takes text ∧ Matches ps rest ∧ path = text ++ rest := by
  constructor
  · rintro ⟨texts, hall, rfl⟩
    obtain ⟨text, texts, hfirst, hrest, rfl⟩ := List.forall₂_cons_left_iff.mp hall
    exact ⟨text, texts.flatten, hfirst, ⟨texts, hrest, rfl⟩, List.flatten_cons⟩
  · rintro ⟨text, _, hfirst, ⟨texts, hrest, rfl⟩, rfl⟩
    exact ⟨text :: texts, .cons hfirst hrest, List.flatten_cons⟩

/-- A path that two readings match one behind the other can be split between them. -/
theorem matches_append :
    Matches (ps ++ qs) path ↔
      ∃ before after, Matches ps before ∧ Matches qs after ∧ path = before ++ after := by
  induction ps generalizing path with
  | nil => simp [matches_nil]
  | cons piece ps ih =>
    simp only [List.cons_append, matches_cons, ih]
    constructor
    · rintro ⟨text, _, htext, ⟨before, after, hbefore, hafter, rfl⟩, rfl⟩
      exact ⟨text ++ before, after, ⟨text, before, htext, hbefore, rfl⟩, hafter,
        (List.append_assoc ..).symm⟩
    · rintro ⟨_, after, ⟨text, before, htext, hbefore, rfl⟩, hafter, rfl⟩
      exact ⟨text, before ++ after, htext, ⟨before, after, hbefore, hafter, rfl⟩,
        List.append_assoc ..⟩

/-- The test of a piece tries all of its texts. -/
theorem Piece.accepts_iff {accept : List Char → Bool} :
    piece.accepts accept path = true ↔
      ∃ text rest, piece.Takes text ∧ accept rest = true ∧ path = text ++ rest := by
  -- Runs are tried at every suffix of the path, single characters at its first one.
  cases piece with
  | directories =>
    simp only [Piece.accepts, Bool.or_eq_true, Text.someSuffix_iff, Text.afterOne_iff,
      decide_eq_true_eq, List.forall_mem_ne', Takes]
    constructor
    · rintro (h | ⟨run, _, rfl, hrun, _, rest, rfl, rfl, h⟩)
      · exact ⟨[], path, .inl rfl, h, rfl⟩
      · exact ⟨run ++ ['/'], rest, .inr ⟨run, hrun, rfl⟩, h, by simp⟩
    · rintro ⟨_, rest, rfl | ⟨run, hrun, rfl⟩, h, rfl⟩
      · exact .inl h
      · exact .inr ⟨run, '/' :: rest, by simp, hrun, '/', rest, rfl, rfl, h⟩
  | anything =>
    simp only [Piece.accepts, Text.someSuffix_iff, decide_eq_true_eq, List.forall_mem_ne', Takes]
    exact exists₂_congr fun run rest => by tauto
  | segment =>
    simp only [Piece.accepts, Text.someSuffix_iff, decide_eq_true_eq, List.forall_mem_ne', Takes]
    exact exists₂_congr fun run rest => by tauto
  | one =>
    simp only [Piece.accepts, Text.afterOne_iff, decide_eq_true_eq, Takes]
    constructor
    · rintro ⟨c, rest, rfl, hc, h⟩
      exact ⟨[c], rest, ⟨c, hc, rfl⟩, h, rfl⟩
    · rintro ⟨_, rest, ⟨c, hc, rfl⟩, h, rfl⟩
      exact ⟨c, rest, rfl, hc, h⟩
  | literal c =>
    simp only [Piece.accepts, Text.afterOne_iff, decide_eq_true_eq, Takes]
    constructor
    · rintro ⟨_, rest, rfl, rfl, h⟩
      exact ⟨[_], rest, rfl, h, rfl⟩
    · rintro ⟨_, rest, rfl, h, rfl⟩
      exact ⟨c, rest, rfl, rfl, h⟩

/-- The matcher accepts a path exactly when the pieces match it. -/
theorem accepts_iff : accepts ps path = true ↔ Matches ps path := by
  induction ps generalizing path with
  | nil => rw [accepts, matches_nil, List.isEmpty_iff]
  | cons piece ps ih => simp only [accepts, Piece.accepts_iff, matches_cons, ih]

/-- A glob matches a path exactly when its pieces do. -/
theorem isMatch_iff {glob path : String} :
    isMatch glob path = true ↔ Matches (pieces glob.toList) path.toList := by
  rw [isMatch_eq_accepts, accepts_iff]

/-- A glob has one reading, and it matches a path exactly when each piece of the reading takes a
text such that the texts, one behind the other, are the path. -/
theorem isMatch_iff_takes (glob : String) :
    ∃ ps, (∀ qs, Reads glob.toList qs ↔ qs = ps) ∧
      ∀ path : String, isMatch glob path = true ↔
        ∃ texts, List.Forall₂ Piece.Takes ps texts ∧ texts.flatten = path.toList :=
  ⟨pieces glob.toList, fun _ => reads_iff, fun _ => isMatch_iff⟩

end ScopeAlgebra.Glob
