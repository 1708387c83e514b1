import ScopeAlgebra.Proofs.Json.Numbers
import ScopeAlgebra.Schema.Field

/-!
# Reading what was written

Each kind of value is read back from the JSON that is written for it, a list when its items are. An
integer that is read from anything but an integer has few digits (`isShort_of_integer`).
-/

namespace ScopeAlgebra.Schema

variable {α : Type} {read : Reader α} {write : α → Json} {intake : Intake}

/-! ## Values -/

/-- A string is read back as the text it holds. -/
@[simp] theorem text_string (s : String) : text (.string s) = .ok s := rfl

/-- A truth value is read back from itself. -/
@[simp] theorem boolean_bool (b : Bool) : boolean (.bool b) = .ok b := rfl

/-- An integer is read back from itself, whatever its size. -/
@[simp] theorem integer_int (n : Int) : integer (.int n) = .ok n := rfl

/-- A string that is not empty passes where an empty one is refused. -/
theorem nonEmptyText_string {s : String} (h : s ≠ "") : nonEmptyText (.string s) = .ok s := by
  rw [nonEmptyText, text_string]
  simp [Except.bind, String.isEmpty_iff, h]

/-- An optional text is read back from its string, or from null where there is none. -/
@[simp] theorem nullable_optionalString (s? : Option String) :
    nullable text (.optionalString s?) = .ok s? := by
  cases s? <;> rfl

/-! ## Lists -/

/-- Items are read back in order when each is, whatever index the first of them has. -/
theorem eachFrom_map {xs : List α} (h : ∀ x ∈ xs, read (write x) = .ok x) (index : Nat) :
    Checked.eachFrom read index (xs.map write) = .ok xs := by
  -- The index only names items in errors, so the induction leaves it free.
  induction xs generalizing index with
  | nil => rfl
  | cons x xs ih =>
    obtain ⟨hx, hxs⟩ := List.forall_mem_cons.mp h
    simp [Checked.eachFrom, hx, ih hxs]

/-- A list is read back when its items are. -/
theorem listOf_array {xs : List α} (h : ∀ x ∈ xs, read (write x) = .ok x) :
    listOf intake read (.array (xs.map write)) = .ok xs := eachFrom_map h 0

/-- A list of texts is read back from their strings. -/
@[simp] theorem listOf_strings (texts : List String) :
    listOf intake text (.strings texts) = .ok texts :=
  listOf_array fun _ _ => rfl

/-! ## Integers with few digits -/

section Short

open Json

variable {cs : List Char} {n : Int}

/-- An integer that is read from its digits alone is short. -/
theorem isShort_of_plainInteger? (h : plainInteger? cs = some n) : IsShort n := by
  unfold plainInteger? at h
  split at h
  simp only at h
  split at h
  next hplain =>
    rw [Bool.and_eq_true, isPlain, Bool.and_eq_true, Bool.and_eq_true, List.all_eq_true] at hplain
    obtain ⟨⟨⟨hdigits, -⟩, -⟩, hlimit⟩ := hplain
    cases h
    split
    · exact isShort_neg.mpr (isShort_natOfDigits hdigits hlimit)
    · exact isShort_natOfDigits hdigits hlimit
  · contradiction

/-- An integer that is read from a text is short, also where the text has to be brought into form
first. -/
theorem isShort_of_integerOfText {s : String} (h : integerOfText s = .ok n) : IsShort n := by
  simp only [integerOfText] at h
  split at h
  · contradiction
  · split at h
    next hread =>
      cases h
      -- The text is read as it stands, or else in the form that it is brought into.
      rcases Option.or_eq_some_iff.mp hread with hplain | ⟨-, hform⟩
      · exact isShort_of_plainInteger? hplain
      · obtain ⟨form, -, hplain⟩ := Option.bind_eq_some_iff.mp hform
        exact isShort_of_plainInteger? hplain
    · contradiction

/-- Words of 64 bits are short. -/
theorem isShort_of_word (h : -wordBound < n ∧ n < wordBound) : IsShort n := by
  rw [wordBound] at h
  have hlength : (Nat.toDigits 10 n.natAbs).length ≤ 19 :=
    (Nat.length_toDigits_le_iff (by decide) (by decide)).mpr (by omega)
  rw [IsShort, isWithinLimit, decide_eq_true_eq]
  exact Nat.le_trans hlength (by decide)

/-- An integer that is read from a decimal number fits in a word, so it is short. -/
theorem isShort_of_integerOfDecimal {mantissa exponent : Int}
    (h : integerOfDecimal mantissa exponent = .ok n) : IsShort n := by
  unfold integerOfDecimal at h
  split at h
  · split at h
    next hword =>
      cases h
      rw [Bool.and_eq_true, decide_eq_true_eq, decide_eq_true_eq] at hword
      exact isShort_of_word hword
    · contradiction
  · contradiction
  · contradiction

/-- An integer is short unless it is given as an integer that is not. -/
theorem isShort_of_integer {json : Json} (h : integer json = .ok n)
    (hjson : ∀ n, json = .int n → IsShort n) : IsShort n := by
  unfold integer at h
  -- One case for each kind of JSON. Only an integer is taken over as it is, and for that the
  -- hypothesis speaks.
  split at h
  · cases h
    exact hjson _ rfl
  · cases h
    split <;> rfl
  · exact isShort_of_integerOfDecimal h
  · contradiction
  · exact isShort_of_integerOfText h
  · contradiction

end Short

end ScopeAlgebra.Schema
