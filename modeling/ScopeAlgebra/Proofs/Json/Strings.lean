import ScopeAlgebra.Json.Parser
import ScopeAlgebra.Json.Printer

/-!
# Strings of JSON, written and read

The characters of a string are read back as they are written, escapes included
(`stringBody_written`). A character beyond the first plane is written as a surrogate pair, and a
code unit that stands alone is never taken for half of one, whatever is written behind it.
-/

namespace ScopeAlgebra.Json

variable {ascii : Bool} {c : Char} {rest body after : List Char} {unit : Nat}

/-! ## Code units -/

/-- Each of the sixteen hexadecimal digits is read back from its character. -/
theorem hexValue?_digitChar : ∀ d < 16, hexValue? (Nat.digitChar d) = some d := by decide

/-- A code unit is read back from its digits. -/
theorem codeUnit?_unitDigits (h : unit < 0x10000) :
    ∃ a b c d, unitDigits unit = [a, b, c, d] ∧ codeUnit? a b c d = some unit := by
  refine ⟨_, _, _, _, rfl, ?_⟩
  have hvalue (n : Nat) : hexValue? (Nat.digitChar (n % 16)) = some (n % 16) :=
    hexValue?_digitChar _ (Nat.mod_lt n (by decide))
  -- The four digits are the remainders by sixteen of the unit shifted by twelve, eight, four and no
  -- bits.
  simp only [codeUnit?, hvalue, Nat.shiftRight_eq_div_pow]
  simp only [Option.bind_eq_bind, Option.bind_some, Option.pure_def, Option.some.injEq]
  omega

/-! ## Characters -/

attribute [local simp] stringBody

/-- What stands behind `\u` in a string that can be read is a code unit. -/
theorem exists_codeUnit {a b c d : Char}
    (h : stringBody ('\\' :: 'u' :: a :: b :: c :: d :: rest) = some (body, after)) :
    ∃ unit, codeUnit? a b c d = some unit := by
  rcases hunit : codeUnit? a b c d with _ | unit
  -- A second escape behind the first is read together with it, so the two forms are separate cases.
  · by_cases hnext : ∃ a' b' c' d' cs, rest = '\\' :: 'u' :: a' :: b' :: c' :: d' :: cs
    · obtain ⟨a', b', c', d', cs, rfl⟩ := hnext
      simp [hunit] at h
    · rw [stringBody, hunit] at h
      · contradiction
      · rintro a' b' c' d' cs rfl
        exact hnext ⟨_, _, _, _, _, rfl⟩
  · exact ⟨unit, rfl⟩

/-- A code unit that stands alone is a character, whatever stands behind it. -/
theorem stringBody_unit {a b c d : Char} (hunit : codeUnit? a b c d = some unit)
    (halone : unit < 0xD800 ∨ 0xE000 ≤ unit) (hrest : stringBody rest = some (body, after)) :
    stringBody ('\\' :: 'u' :: a :: b :: c :: d :: rest) =
      some (Char.ofNat unit :: body, after) := by
  have hchar : charOfUnit? unit = some (Char.ofNat unit) := by
    simp only [charOfUnit?, Bool.and_eq_true, decide_eq_true_eq]
    exact if_neg (by omega)
  have hhigh : isHighSurrogate unit = false := by
    simp only [isHighSurrogate, Bool.and_eq_false_iff, decide_eq_false_iff_not]
    omega
  -- A unit below or above the surrogates never joins the escape behind it.
  by_cases hnext : ∃ a' b' c' d' cs, rest = '\\' :: 'u' :: a' :: b' :: c' :: d' :: cs
  · obtain ⟨a', b', c', d', cs, rfl⟩ := hnext
    obtain ⟨unit', hunit'⟩ := exists_codeUnit hrest
    simp [hunit, hunit', hhigh, hchar, hrest]
  · rw [stringBody, hunit]
    · simp [hchar, hrest]
    · rintro a' b' c' d' cs rfl
      exact hnext ⟨_, _, _, _, _, rfl⟩

/-- Two halves of a surrogate pair are one character. -/
theorem stringBody_pair {a b c d a' b' c' d' : Char} {high low : Nat}
    (hfirst : codeUnit? a b c d = some high) (hsecond : codeUnit? a' b' c' d' = some low)
    (hhigh : 0xD800 ≤ high ∧ high < 0xDC00) (hlow : 0xDC00 ≤ low ∧ low < 0xE000)
    (hrest : stringBody rest = some (body, after)) :
    stringBody ('\\' :: 'u' :: a :: b :: c :: d :: '\\' :: 'u' :: a' :: b' :: c' :: d' :: rest) =
      some (Char.ofNat (0x10000 + (high - 0xD800) * 0x400 + (low - 0xDC00)) :: body, after) := by
  simp [hfirst, hsecond, isHighSurrogate, hhigh, hlow, hrest]

/-- A character is read from its escape. -/
theorem stringBody_unitEscape (hrest : stringBody rest = some (body, after)) :
    stringBody (unitEscape c ++ rest) = some (c :: body, after) := by
  have hvalid : c.toNat < 0xD800 ∨ 0xDFFF < c.toNat ∧ c.toNat < 0x110000 := c.valid
  rw [unitEscape]
  split
  next hsmall =>
    obtain ⟨_, _, _, _, hdigits, hunit⟩ := codeUnit?_unitDigits hsmall
    have hread := stringBody_unit hunit (by omega) hrest
    rw [Char.ofNat_toNat] at hread
    rw [hdigits]
    exact hread
  next hlarge =>
    -- The two halves are named, since their values are needed only in the bounds and in the sum.
    obtain ⟨high, hhigh⟩ : ∃ high, high = 0xD800 + (c.toNat - 0x10000) / 0x400 := ⟨_, rfl⟩
    obtain ⟨low, hlow⟩ : ∃ low, low = 0xDC00 + (c.toNat - 0x10000) % 0x400 := ⟨_, rfl⟩
    have hpair : 0x10000 + (high - 0xD800) * 0x400 + (low - 0xDC00) = c.toNat := by omega
    have hhighUnit : high < 0x10000 := by omega
    have hlowUnit : low < 0x10000 := by omega
    obtain ⟨_, _, _, _, hdigits, hfirst⟩ := codeUnit?_unitDigits hhighUnit
    obtain ⟨_, _, _, _, hdigits', hsecond⟩ := codeUnit?_unitDigits hlowUnit
    have hread := stringBody_pair hfirst hsecond (by omega) (by omega) hrest
    rw [hpair, Char.ofNat_toNat] at hread
    simp only [← hhigh, ← hlow, hdigits, hdigits']
    exact hread

/-- A character is read back as it is written. -/
theorem stringBody_writtenChar (hrest : stringBody rest = some (body, after)) :
    stringBody (writtenChar ascii c ++ rest) = some (c :: body, after) := by
  unfold writtenChar
  -- The cases are those of the printer: seven characters with escapes of their own, then all
  -- others.
  split
  case h_8 hquote hslash _ _ _ _ _ =>
    split
    · exact stringBody_unitEscape hrest
    next hplain =>
      have hc : ¬ c.toNat < 0x20 := by
        rw [Bool.or_eq_true, decide_eq_true_eq, not_or] at hplain
        exact hplain.1
      rw [List.singleton_append, stringBody]
      · simp [hc, hrest]
      · exact hquote
      -- Every other form that is read starts with a backslash.
      all_goals
        intros
        exact (hslash ‹_›).elim
  all_goals simp [escaped?, hrest]

/-- The characters of a string are read back up to its closing mark. -/
theorem stringBody_written (chars : List Char) :
    stringBody (chars.flatMap (writtenChar ascii) ++ '"' :: rest) = some (chars, rest) := by
  induction chars with
  | nil => simp
  | cons c chars ih =>
    rw [List.flatMap_cons, List.append_assoc]
    exact stringBody_writtenChar ih

end ScopeAlgebra.Json
