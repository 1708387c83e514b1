/-!
# Tests of suffixes

Matchers that try several splits of a text are built from tests of its suffixes. `someSuffix` and
`afterOne` say what such a test means; `spread` and `shift` find its answers for all suffixes at
once, so that no suffix is tried twice. `spread_answers` and `shift_answers` say that both ways
agree.
-/

namespace ScopeAlgebra.Text

/-- Whether `accept` takes the text after some leading run of characters that all satisfy `skip`. -/
def someSuffix (skip : Char → Bool) (accept : List Char → Bool) : List Char → Bool
  | [] => accept []
  | c :: rest => accept (c :: rest) || (skip c && someSuffix skip accept rest)

/-- Whether the first character satisfies `ok` and `accept` takes the text after it. -/
def afterOne (ok : Char → Bool) (accept : List Char → Bool) : List Char → Bool
  | [] => false
  | c :: rest => ok c && accept rest

/-- A text has such a suffix exactly when it can be cut behind a run that may be skipped. -/
theorem someSuffix_iff {skip : Char → Bool} {accept : List Char → Bool} {cs : List Char} :
    someSuffix skip accept cs = true ↔
      ∃ run rest, cs = run ++ rest ∧ (∀ c ∈ run, skip c = true) ∧ accept rest = true := by
  induction cs with
  | nil =>
    constructor
    · exact fun h => ⟨[], [], rfl, by simp, h⟩
    · rintro ⟨run, rest, heq, -, h⟩
      obtain ⟨-, rfl⟩ := List.append_eq_nil_iff.1 heq.symm
      exact h
  | cons c cs ih =>
    simp only [someSuffix, Bool.or_eq_true, Bool.and_eq_true, ih]
    constructor
    · rintro (h | ⟨hc, run, rest, rfl, hrun, h⟩)
      · exact ⟨[], c :: cs, rfl, by simp, h⟩
      · exact ⟨c :: run, rest, rfl, List.forall_mem_cons.2 ⟨hc, hrun⟩, h⟩
    · rintro ⟨_ | ⟨d, run⟩, rest, heq, hrun, h⟩
      · rw [List.nil_append] at heq
        exact .inl (heq ▸ h)
      · obtain ⟨rfl, rfl⟩ := List.cons.inj heq
        obtain ⟨hc, hrun⟩ := List.forall_mem_cons.1 hrun
        exact .inr ⟨hc, run, rest, rfl, hrun, h⟩

/-- A text is taken after one character exactly when it starts with such a character. -/
theorem afterOne_iff {ok : Char → Bool} {accept : List Char → Bool} {cs : List Char} :
    afterOne ok accept cs = true ↔ ∃ c rest, cs = c :: rest ∧ ok c = true ∧ accept rest = true := by
  cases cs with
  | nil => simp [afterOne]
  | cons c rest =>
    rw [afterOne, Bool.and_eq_true]
    constructor
    · rintro ⟨hc, h⟩
      exact ⟨c, rest, rfl, hc, h⟩
    · rintro ⟨_, _, heq, hc, h⟩
      obtain ⟨rfl, rfl⟩ := List.cons.inj heq
      exact ⟨hc, h⟩

/-! ## Answers for all suffixes -/

/-- The answers of a test for every suffix of a text, the whole text first. -/
def answers (accept : List Char → Bool) : List Char → List Bool
  | [] => [accept []]
  | c :: rest => accept (c :: rest) :: answers accept rest

/-- The answer for the whole text. -/
def whole (row : List Bool) : Bool := row.headD false

/-- The answers of `someSuffix` from those of the test that it tries. -/
def spread (skip : Char → Bool) : List Char → List Bool → List Bool
  | c :: rest, here :: row =>
    let later := spread skip rest row
    (here || (skip c && whole later)) :: later
  | _, row => row

/-- The answers of `afterOne` from those of the test behind the character. -/
def shift (ok : Char → Bool) : List Char → List Bool → List Bool
  | c :: rest, _ :: row => (ok c && whole row) :: shift ok rest row
  | _, _ => [false]

/-- The answers of a test or another one. -/
def either (row other : List Bool) : List Bool := List.zipWith (· || ·) row other

@[simp] theorem whole_answers (accept : List Char → Bool) (cs : List Char) :
    whole (answers accept cs) = accept cs := by
  cases cs <;> rfl

theorem spread_answers (skip : Char → Bool) (accept : List Char → Bool) (cs : List Char) :
    spread skip cs (answers accept cs) = answers (someSuffix skip accept) cs := by
  induction cs with
  | nil => rfl
  | cons c rest ih => simp [spread, answers, someSuffix, ih]

theorem shift_answers (ok : Char → Bool) (accept : List Char → Bool) (cs : List Char) :
    shift ok cs (answers accept cs) = answers (afterOne ok accept) cs := by
  induction cs with
  | nil => rfl
  | cons c rest ih => simp [shift, answers, afterOne, ih]

theorem either_answers (accept other : List Char → Bool) (cs : List Char) :
    either (answers accept cs) (answers other cs) =
      answers (fun text => accept text || other text) cs := by
  induction cs with
  | nil => rfl
  | cons c rest ih => simpa [either, answers] using ih

end ScopeAlgebra.Text
