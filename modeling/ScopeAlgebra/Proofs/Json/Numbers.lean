import Mathlib.Data.List.TakeWhile
import ScopeAlgebra.Json.Parser
import ScopeAlgebra.Json.Printer

/-!
# Integers of JSON, written and read

An integer is read back from its digits when there are not too many of them (`number_toString`), and
an integer that is read has no more digits than that (`number_eq_some`).
-/

namespace ScopeAlgebra.Json

variable {negative : Bool} {c : Char} {cs found rest : List Char} {n : Int} {json : Json}

/-- Integers of which a text may hold the digits. -/
def IsShort (n : Int) : Prop := isWithinLimit (Nat.toDigits 10 n.natAbs) = true

/-! ## Integers that are written -/

/-- A text that does not continue a number. -/
def EndsNumber (rest : List Char) : Prop :=
  ∀ c ∈ rest.head?, c.isDigit = false ∧ c ≠ '.' ∧ c ≠ 'e' ∧ c ≠ 'E'

/-- A number may end where the text ends. -/
theorem endsNumber_nil : EndsNumber [] := by simp [EndsNumber]

/-- A number ends in front of a character that is no digit, no point and no mark of an exponent. -/
theorem endsNumber_cons (hc : c.isDigit = false ∧ c ≠ '.' ∧ c ≠ 'e' ∧ c ≠ 'E') :
    EndsNumber (c :: rest) := by
  simpa [EndsNumber] using hc

/-- All the digits are read up to a text that does not continue the number. -/
theorem digits_append (hfound : ∀ c ∈ found, c.isDigit = true) (hrest : EndsNumber rest) :
    digits (found ++ rest) = (found, rest) := by
  have hnone : rest.takeWhile Char.isDigit = [] ∧ rest.dropWhile Char.isDigit = rest := by
    rcases rest with _ | ⟨c, rest⟩
    · exact ⟨rfl, rfl⟩
    · have hc : ¬ c.isDigit = true := by simp [(hrest c rfl).1]
      exact ⟨List.takeWhile_cons_of_neg hc, List.dropWhile_cons_of_neg hc⟩
  rw [digits, List.takeWhile_append_of_pos hfound, List.dropWhile_append_of_pos hfound,
    hnone.1, hnone.2, List.append_nil]

/-- No fraction is read from a text that does not continue a number. -/
theorem fraction_of_ends (hrest : EndsNumber rest) : fraction rest = some (none, rest) := by
  rcases rest with _ | ⟨c, rest⟩
  · rfl
  · obtain ⟨-, hpoint, -, -⟩ := hrest c rfl
    rw [fraction]
    simpa using hpoint

/-- No exponent is read from a text that does not continue a number. -/
theorem exponent_of_ends (hrest : EndsNumber rest) : exponent rest = some (none, rest) := by
  rcases rest with _ | ⟨c, rest⟩
  · rfl
  · obtain ⟨-, -, he, hE⟩ := hrest c rfl
    simp [exponent, he, hE]

/-- A number other than zero does not start with a zero. -/
theorem head?_toDigits_ne {n : Nat} (hn : 0 < n) : (Nat.toDigits 10 n).head? ≠ some '0' := by
  induction n using Nat.strongRecOn with
  | ind n ih =>
    -- The first digit is that of the number without its last digit, down to a single one.
    by_cases hsmall : n < 10
    · have hdigit : ∀ d < 10, 0 < d → d.digitChar ≠ '0' := by decide
      rw [Nat.toDigits_of_lt_base hsmall]
      simpa using hdigit n hsmall hn
    · rw [Nat.toDigits_of_base_le (by decide) (by omega), List.head?_append,
        Option.or_eq_left_of_isSome (by simp)]
      exact ih (n / 10) (by omega) (by omega)

/-- The decimal digits of a number start with a digit. -/
theorem exists_digit (n : Nat) : ∃ d ds, Nat.toDigits 10 n = d :: ds ∧ d.isDigit = true := by
  obtain ⟨d, ds, hds⟩ := List.exists_cons_of_ne_nil (Nat.toDigits_ne_nil (b := 10) (n := n))
  refine ⟨d, ds, hds, Nat.isDigit_of_mem_toDigits (b := 10) (n := n) (by decide) (by decide) ?_⟩
  rw [hds]
  exact List.mem_cons_self

/-- Digits that are not too many are read as the number they were written for, with the sign that
was read before them. -/
theorem unsignedNumber_toDigits {n : Nat} (hn : isWithinLimit (Nat.toDigits 10 n) = true)
    (hrest : EndsNumber rest) :
    unsignedNumber negative (Nat.toDigits 10 n ++ rest) =
      some (.int (if negative then -(n : Int) else n), rest) := by
  have hdigits : digits (Nat.toDigits 10 n ++ rest) = (Nat.toDigits 10 n, rest) :=
    digits_append (fun c hc => Nat.isDigit_of_mem_toDigits (by decide) (by decide) hc) hrest
  have hnonempty : (Nat.toDigits 10 n).isEmpty = false := by simp
  -- A leading zero is refused, but only zero itself is written with one.
  have hzero : ¬ ((Nat.toDigits 10 n).head? = some '0' ∧ (Nat.toDigits 10 n).length > 1) := by
    rintro ⟨hhead, hlength⟩
    obtain rfl | hpos := Nat.eq_zero_or_pos n
    · contradiction
    · exact head?_toDigits_ne hpos hhead
  have hvalue : Text.natOfDigits (Nat.toDigits 10 n) = n := Nat.ofDigitChars_ten_toDigits
  simp [-gt_iff_lt, unsignedNumber, hdigits, hnonempty, hn, hzero, fraction_of_ends hrest,
    exponent_of_ends hrest, hvalue]

/-- An integer is written as the digits of its magnitude, behind a sign if it is negative. -/
theorem toList_toString (n : Int) :
    (toString n).toList =
      if n < 0 then '-' :: Nat.toDigits 10 n.natAbs else Nat.toDigits 10 n.natAbs := by
  rcases n with n | n
  · have hn : ¬ Int.ofNat n < 0 := Int.not_lt.mpr (Int.natCast_nonneg n)
    rw [if_neg hn]
    exact Nat.toList_repr
  · rw [if_pos (Int.negSucc_lt_zero n)]
    show ("-" ++ (n + 1).repr).toList = _
    rw [String.toList_append, Nat.toList_repr]
    rfl

/-- An integer is read back from its digits. -/
theorem number_toString (hn : IsShort n) (hrest : EndsNumber rest) :
    number ((toString n).toList ++ rest) = some (.int n, rest) := by
  rw [toList_toString]
  split
  next hnegative =>
    have hvalue : -(n.natAbs : Int) = n := by omega
    rw [List.cons_append, number, unsignedNumber_toDigits hn hrest, if_pos rfl, hvalue]
  next hpositive =>
    have hvalue : (n.natAbs : Int) = n := by omega
    rw [number, unsignedNumber_toDigits hn hrest, if_neg Bool.false_ne_true, hvalue]
    -- The digits do not start with a sign that would be read as the number's own.
    intro cs hcs
    obtain ⟨d, ds, hds, hd⟩ := exists_digit n.natAbs
    rw [hds, List.cons_append] at hcs
    obtain ⟨rfl, -⟩ := List.cons.inj hcs
    contradiction

/-! ## Integers that are read -/

/-- Digits stand for a number that has no more of them. -/
theorem natOfDigits_lt (h : ∀ c ∈ found, c.isDigit = true) :
    Text.natOfDigits found < Nat.pow 10 found.length := by
  show Nat.ofDigitChars 10 found 0 < 10 ^ found.length
  induction found with
  | nil => simp
  | cons c found ih =>
    obtain ⟨hc, hfound⟩ := List.forall_mem_cons.mp h
    have hdigit : c.toNat - '0'.toNat < 10 := by
      simp only [Char.isDigit, Bool.and_eq_true, decide_eq_true_eq] at hc
      have hnine : c.toNat ≤ '9'.toNat := UInt32.le_iff_toNat_le.mp hc.2
      have hwidth : '9'.toNat - '0'.toNat < 10 := by decide
      omega
    rw [Nat.ofDigitChars_cons, Nat.ofDigitChars_eq_ofDigitChars_zero, Nat.mul_zero, Nat.zero_add,
      List.length_cons, Nat.pow_succ]
    -- The first digit counts less than ten times the power of ten that the others stay below.
    calc 10 ^ found.length * (c.toNat - '0'.toNat) + Nat.ofDigitChars 10 found 0
        < 10 ^ found.length * (c.toNat - '0'.toNat) + 10 ^ found.length :=
        Nat.add_lt_add_left (ih hfound) _
      _ = 10 ^ found.length * (c.toNat - '0'.toNat + 1) := (Nat.mul_succ _ _).symm
      _ ≤ 10 ^ found.length * 10 := Nat.mul_le_mul_left _ hdigit

/-- A number that is read from a text of few digits has few digits, whatever zeros the text starts
with. -/
theorem isShort_natOfDigits (h : ∀ c ∈ found, c.isDigit = true)
    (hlimit : isWithinLimit found = true) : IsShort (Text.natOfDigits found) := by
  rcases List.eq_nil_or_concat found with rfl | ⟨_, _, hfound⟩
  · rfl
  · have hpos : 0 < found.length := by simp [hfound]
    have hlength : (Nat.toDigits 10 (Text.natOfDigits found)).length ≤ found.length :=
      (Nat.length_toDigits_le_iff (by decide) hpos).mpr (natOfDigits_lt h)
    rw [isWithinLimit, decide_eq_true_eq] at hlimit
    rw [IsShort, Int.natAbs_natCast, isWithinLimit, decide_eq_true_eq]
    exact Nat.le_trans hlength hlimit

/-- The sign of an integer does not count among its digits. -/
theorem isShort_neg : IsShort (-n) ↔ IsShort n := by
  rw [IsShort, IsShort, Int.natAbs_neg]

/-- A number that is read is an integer of which a text holds the digits, or a decimal one. -/
theorem unsignedNumber_eq_some (h : unsignedNumber negative cs = some (json, rest)) :
    (∃ n, json = .int n ∧ IsShort n) ∨ ∃ mantissa power, json = .decimal mantissa power := by
  obtain ⟨whole, more, hread⟩ : ∃ whole more, digits cs = (whole, more) := ⟨_, _, rfl⟩
  have hdigits : ∀ c ∈ whole, c.isDigit = true := by
    intro c hc
    rw [show whole = (digits cs).1 from (congrArg Prod.fst hread).symm] at hc
    exact List.mem_takeWhile_imp hc
  rw [unsignedNumber, hread] at h
  by_cases hlimit : isWithinLimit whole = true
  · rcases hfraction : fraction more with _ | ⟨fraction?, more⟩
    · simp [hfraction] at h
    rcases hexponent : exponent more with _ | ⟨exponent?, more⟩
    · simp [hfraction, hexponent] at h
    -- Only a number without a fraction and an exponent is an integer.
    rcases fraction? with _ | found <;> rcases exponent? with _ | power <;>
      simp [hfraction, hexponent, hlimit] at h
    · obtain ⟨-, rfl, -⟩ := h
      have hshort := isShort_natOfDigits hdigits hlimit
      refine .inl ⟨_, rfl, ?_⟩
      split
      · exact isShort_neg.mpr hshort
      · exact hshort
    all_goals exact .inr ⟨_, _, h.2.1.symm⟩
  · simp [hlimit] at h

/-- What is read as a number, with its sign, is an integer of few digits or a decimal number. -/
theorem number_eq_some (h : number cs = some (json, rest)) :
    (∃ n, json = .int n ∧ IsShort n) ∨ ∃ mantissa power, json = .decimal mantissa power := by
  unfold number at h
  split at h <;> exact unsignedNumber_eq_some h

end ScopeAlgebra.Json
