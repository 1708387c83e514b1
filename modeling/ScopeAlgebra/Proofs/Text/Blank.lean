import Mathlib.Data.List.DropRight
import ScopeAlgebra.Text.Blank

/-!
# Laws of white space

Skipping and trimming white space do what they are named for: a run of white space in front of a
text is skipped whole and nothing else is, and a trimmed text has nothing left to trim.
-/

namespace ScopeAlgebra.Text

/-- A run of white space, possibly empty. -/
def Blanks (w : List Char) : Prop := ∀ c ∈ w, isBlank c = true

variable {c : Char} {s t w : List Char}

/-! ## Skipping -/

/-- The empty text is all white space. -/
theorem blanks_nil : Blanks [] := by simp [Blanks]

/-- A single character of white space is a run of it. -/
theorem blanks_singleton (hc : isBlank c = true) : Blanks [c] := by simpa [Blanks] using hc

/-- A run of white space in front of a text is skipped. -/
theorem skipBlanks_append (hw : Blanks w) (s : List Char) : skipBlanks (w ++ s) = skipBlanks s :=
  List.dropWhile_append_of_pos hw

/-- What was skipped in front of a text is white space. -/
theorem exists_blanks (s : List Char) : ∃ w, Blanks w ∧ w ++ skipBlanks s = s :=
  ⟨s.takeWhile isBlank, fun _ hc => List.mem_takeWhile_imp hc, List.takeWhile_append_dropWhile⟩

/-- What is left after skipping has nothing left to skip. -/
@[simp] theorem skipBlanks_skipBlanks (s : List Char) : skipBlanks (skipBlanks s) = skipBlanks s :=
  List.dropWhile_idempotent isBlank s

/-- A character that is not white space is not skipped. -/
theorem skipBlanks_cons (hc : isBlank c = false) (s : List Char) : skipBlanks (c :: s) = c :: s :=
  List.dropWhile_cons_of_neg (by simp [hc])

/-- White space is skipped up to the first other character. -/
theorem skipBlanks_append_cons (hw : Blanks w) (hc : isBlank c = false) (s : List Char) :
    skipBlanks (w ++ c :: s) = c :: s := by
  rw [skipBlanks_append hw, skipBlanks_cons hc]

/-- What is left starts with no white space. -/
theorem isBlank_of_skipBlanks_eq_cons (h : skipBlanks s = c :: t) : isBlank c = false := by
  have hhead := List.head?_dropWhile_not isBlank s
  rw [show s.dropWhile isBlank = c :: t from h] at hhead
  simpa using hhead

/-- A text is skipped whole exactly when it is all white space. -/
theorem skipBlanks_eq_nil_iff : skipBlanks s = [] ↔ Blanks s := List.dropWhile_eq_nil_iff

/-! ## Trimming -/

/-- A text is trimmed away exactly when it is all white space. -/
theorem trimChars_eq_nil_iff : trimChars s = [] ↔ Blanks s := by
  constructor
  · intro h
    have hreverse : Blanks (skipBlanks s).reverse :=
      skipBlanks_eq_nil_iff.mp (List.reverse_eq_nil_iff.mp h)
    obtain ⟨w, hw, hs⟩ := exists_blanks s
    -- A character stands in the white space that was skipped in front, or in what the end was
    -- trimmed of.
    intro c hc
    rw [← hs, List.mem_append] at hc
    exact hc.elim (hw c) fun hc => hreverse c (List.mem_reverse.mpr hc)
  · intro h
    rw [trimChars, skipBlanks_eq_nil_iff.mpr h]
    rfl

/-- Trimming adds no character. -/
theorem mem_of_mem_trimChars (h : c ∈ trimChars s) : c ∈ s := by
  have hmem : c ∈ (skipBlanks s).reverse := List.dropWhile_subset isBlank (List.mem_reverse.mp h)
  exact List.dropWhile_subset isBlank (List.mem_reverse.mp hmem)

/-- A trimmed text starts with no white space. -/
theorem skipBlanks_trimChars (s : List Char) : skipBlanks (trimChars s) = trimChars s := by
  cases htrim : trimChars s with
  | nil => rfl
  | cons c t =>
    have hprefix : trimChars s <+: skipBlanks s := List.rdropWhile_prefix isBlank (skipBlanks s)
    rw [htrim] at hprefix
    obtain ⟨u, hu⟩ := hprefix
    exact skipBlanks_cons (isBlank_of_skipBlanks_eq_cons hu.symm) t

/-- A trimmed text has nothing left to trim. -/
@[simp] theorem trimChars_trimChars (s : List Char) : trimChars (trimChars s) = trimChars s := by
  rw [trimChars, skipBlanks_trimChars]
  conv_lhs => rw [trimChars, List.reverse_reverse, skipBlanks_skipBlanks]
  rfl

/-- A text with no white space at either end is trimmed. -/
theorem trimChars_of_ends (hhead : ∀ c ∈ s.head?, isBlank c = false)
    (hlast : ∀ c ∈ s.getLast?, isBlank c = false) : trimChars s = s := by
  have hskip {u : List Char} (hu : ∀ c ∈ u.head?, isBlank c = false) : skipBlanks u = u := by
    cases u with
    | nil => rfl
    | cons c u => exact skipBlanks_cons (hu c rfl) u
  have hreverse : skipBlanks s.reverse = s.reverse := hskip (by simpa using hlast)
  rw [trimChars, hskip hhead, hreverse, List.reverse_reverse]

/-- A trimmed text starts and ends with other characters than white space. -/
theorem ends_of_trimChars_eq (h : trimChars s = s) :
    (∀ c ∈ s.head?, isBlank c = false) ∧ ∀ c ∈ s.getLast?, isBlank c = false := by
  have hskip {u : List Char} {c : Char} (hu : c ∈ (skipBlanks u).head?) : isBlank c = false := by
    obtain ⟨t, ht⟩ := List.head?_eq_some_iff.mp hu
    exact isBlank_of_skipBlanks_eq_cons ht
  refine ⟨fun c hc => hskip (u := s) ?_, fun c hc => hskip (u := (skipBlanks s).reverse) ?_⟩
  · rwa [← h, skipBlanks_trimChars, h]
  · rw [← h, trimChars, List.getLast?_reverse] at hc
    exact hc

/-! ## Optional texts -/

variable {x y : String} {x? : Option String}

/-- A text is blank exactly when it is all white space. -/
theorem isBlankText_iff : isBlankText x = true ↔ Blanks x.toList := by
  simp [isBlankText, Blanks]

/-- Trimming twice is trimming once. -/
@[simp] theorem trim_trim (x : String) : trim (trim x) = trim x := by
  simp [trim]

/-- A text is present in its trimmed form unless it is blank. -/
theorem present?_eq_some :
    present? x? = some y ↔ ∃ x, x? = some x ∧ isBlankText x = false ∧ trim x = y := by
  cases x? with
  | none => simp [present?]
  | some x =>
    by_cases hx : isBlankText x = true
    · simp [present?, hx]
    · simp [present?, hx]

/-- What is present is trimmed. -/
theorem trim_of_present? (h : present? x? = some y) : trim y = y := by
  obtain ⟨x, -, -, rfl⟩ := present?_eq_some.mp h
  exact trim_trim x

/-- A trimmed text is blank only when it is empty. -/
theorem isBlankText_of_trim_eq (h : trim x = x) : isBlankText x = x.isEmpty := by
  rw [Bool.eq_iff_iff, isBlankText_iff, ← trimChars_eq_nil_iff, String.isEmpty_iff, ← h, trim]
  simp

/-- A trimmed text is present as it is, unless it is empty. -/
theorem present?_of_trim_eq (h : trim x = x) (hne : x ≠ "") : present? (some x) = some x := by
  refine present?_eq_some.mpr ⟨x, rfl, ?_, h⟩
  rw [isBlankText_of_trim_eq h]
  simpa [String.isEmpty_iff] using hne

/-- What is present is not empty. -/
theorem ne_empty_of_present? (h : present? x? = some y) : y ≠ "" := by
  obtain ⟨x, -, hx, rfl⟩ := present?_eq_some.mp h
  intro hnil
  have htrim : trimChars x.toList = [] := by simpa [trim] using hnil
  rw [isBlankText_iff.mpr (trimChars_eq_nil_iff.mp htrim)] at hx
  contradiction

/-- What is present stays so. -/
theorem present?_of_present? (h : present? x? = some y) : present? (some y) = some y :=
  present?_of_trim_eq (trim_of_present? h) (ne_empty_of_present? h)

/-- A trimmed text behind one that starts with another character than white space makes a trimmed
text. -/
theorem present?_append (hhead : x.toList.head? = some c) (hc : isBlank c = false)
    (hy : present? (some y) = some y) : present? (some (x ++ y)) = some (x ++ y) := by
  have hne : y.toList ≠ [] := by simpa using ne_empty_of_present? hy
  have htrim : trimChars y.toList = y.toList := by
    simpa [trim, ← String.toList_inj] using trim_of_present? hy
  obtain ⟨t, ht⟩ := List.head?_eq_some_iff.mp hhead
  have hx : x ≠ "" := by
    rintro rfl
    simp at ht
  refine present?_of_trim_eq ?_ (by simp [hx])
  rw [trim, trimChars_of_ends, String.ofList_toList]
  · rw [String.toList_append, ht]
    simpa using hc
  · rw [String.toList_append, List.getLast?_append_of_ne_nil _ hne]
    exact (ends_of_trimChars_eq htrim).2

/-! ## Trailing white space -/

/-- A text ends in white space. -/
def EndsBlank (x : String) : Prop := ∃ c ∈ x.toList.getLast?, isBlank c = true

/-- What is put in front of a text that is not empty does not change its end. -/
theorem endsBlank_append (hne : y ≠ "") : EndsBlank (x ++ y) ↔ EndsBlank y := by
  have hlist : y.toList ≠ [] := by simpa using hne
  rw [EndsBlank, String.toList_append, List.getLast?_append_of_ne_nil _ hlist]
  rfl

/-- A text that starts with another character than white space is trimmed exactly when it does not
end in any. -/
theorem trim_eq_self_iff (hhead : x.toList.head? = some c) (hc : isBlank c = false) :
    trim x = x ↔ ¬ EndsBlank x := by
  have hends : ¬ EndsBlank x ↔ ∀ c ∈ x.toList.getLast?, isBlank c = false := by
    simp [EndsBlank]
  rw [hends]
  constructor
  · intro h
    have htrim : trimChars x.toList = x.toList := by
      simpa [trim, ← String.toList_inj] using h
    exact (ends_of_trimChars_eq htrim).2
  · intro hlast
    rw [trim, trimChars_of_ends _ hlast, String.ofList_toList]
    rw [hhead]
    simpa using hc

end ScopeAlgebra.Text
