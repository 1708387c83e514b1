import Mathlib.Data.List.DropRight
import ScopeAlgebra.Text.Slice

/-!
# Laws of parts of texts

What `stripLeft` and `stripRight` take off is a run of one character, and what they leave neither
starts nor ends with it. A text starts with another one when it is that one with something behind it
(`hasHead_iff`).
-/

namespace ScopeAlgebra.Text

variable {c : Char} {s head : String}

/-! ## Stripping -/

/-- Stripping drops the run of the character at the end. -/
theorem toList_stripRight (c : Char) (s : String) :
    (stripRight c s).toList = s.toList.rdropWhile (· = c) := by
  simp [stripRight, List.rdropWhile]

/-- Behind what is left, only the stripped character stood. -/
theorem exists_replicate_stripRight (c : Char) (s : String) :
    ∃ n, s.toList = (stripRight c s).toList ++ List.replicate n c := by
  have htail : s.toList.rtakeWhile (· = c) =
      List.replicate (s.toList.rtakeWhile (· = c)).length c :=
    List.eq_replicate_of_mem fun d hd => by simpa using List.mem_rtakeWhile_imp hd
  refine ⟨(s.toList.rtakeWhile (· = c)).length, ?_⟩
  rw [toList_stripRight, ← htail, List.rdropWhile_append_rtakeWhile]

/-- In front of what is left, only the stripped character stood. -/
theorem exists_replicate_stripLeft (c : Char) (s : String) :
    ∃ n, s.toList = List.replicate n c ++ (stripLeft c s).toList := by
  have hfront : s.toList.takeWhile (· = c) = List.replicate (s.toList.takeWhile (· = c)).length c :=
    List.eq_replicate_of_mem fun d hd => by simpa using List.mem_takeWhile_imp hd
  refine ⟨(s.toList.takeWhile (· = c)).length, ?_⟩
  rw [← hfront, stripLeft, String.toList_ofList, List.takeWhile_append_dropWhile]

/-- What is left does not start with the stripped character. -/
theorem head?_stripLeft (c : Char) (s : String) : (stripLeft c s).toList.head? ≠ some c := by
  intro h
  have hnot := List.head?_dropWhile_not (· = c) s.toList
  rw [show s.toList.dropWhile (· = c) = (stripLeft c s).toList by simp [stripLeft], h] at hnot
  simp at hnot

/-- What is left does not end with the stripped character. -/
theorem getLast?_stripRight (c : Char) (s : String) :
    (stripRight c s).toList.getLast? ≠ some c := by
  intro h
  have hnot := List.head?_dropWhile_not (· = c) s.toList.reverse
  rw [stripRight, String.toList_ofList, List.getLast?_reverse] at h
  rw [h] at hnot
  simp at hnot

/-- A text that does not end with the stripped character stays as it is. -/
theorem stripRight_eq_self_iff : stripRight c s = s ↔ s.toList.getLast? ≠ some c := by
  refine ⟨fun h => h ▸ getLast?_stripRight c s, fun hlast => ?_⟩
  obtain ⟨n, hs⟩ := exists_replicate_stripRight c s
  cases n with
  | zero => exact String.toList_inj.mp (by simpa using hs.symm)
  | succ n =>
    rw [hs, List.replicate_succ', ← List.append_assoc] at hlast
    simp at hlast

/-- What is put behind a text stays when something of the text does. -/
theorem stripLeft_append (h : stripLeft c s ≠ "") (t : String) :
    stripLeft c (s ++ t) = stripLeft c s ++ t := by
  have hne : s.toList.dropWhile (· = c) ≠ [] := fun hnil => h (by rw [stripLeft, hnil])
  rw [stripLeft, String.toList_append, List.dropWhile_append,
    if_neg (by simpa using hne), stripLeft, String.ofList_append, String.ofList_toList]

/-- Of a text that ends in another character something is left. -/
theorem stripLeft_ne_empty (hne : s ≠ "") (hlast : s.toList.getLast? ≠ some c) :
    stripLeft c s ≠ "" := by
  intro hempty
  obtain ⟨n, hs⟩ := exists_replicate_stripLeft c s
  rw [hempty, String.toList_empty, List.append_nil] at hs
  rw [hs, List.getLast?_replicate] at hlast
  split at hlast
  next hn => exact hne (by simpa [hn] using hs)
  next => exact hlast rfl

/-! ## Starts of texts -/

/-- A text starts with another one when it is that one with something behind it. -/
theorem hasHead_iff : hasHead head s = true ↔ ∃ rest, s = head ++ rest := by
  rw [hasHead, List.isPrefixOf_iff_prefix]
  constructor
  · rintro ⟨rest, hrest⟩
    exact ⟨String.ofList rest, by simpa [← String.toList_inj] using hrest.symm⟩
  · rintro ⟨rest, rfl⟩
    exact ⟨rest.toList, by simp⟩

/-- What stands behind the start of a text is the rest. -/
@[simp] theorem afterHead_append (head rest : String) :
    afterHead head (head ++ rest) = rest.toList := by
  simp [afterHead]

/-- A text starts with what it is put behind. -/
theorem hasHead_append_self (head rest : String) : hasHead head (head ++ rest) = true :=
  hasHead_iff.mpr ⟨rest, rfl⟩

/-- What is put behind a text does not change its start. -/
theorem hasHead_append (h : hasHead head s = true) (t : String) : hasHead head (s ++ t) = true := by
  obtain ⟨rest, rfl⟩ := hasHead_iff.mp h
  exact hasHead_iff.mpr ⟨rest ++ t, String.append_assoc⟩

/-- Texts differ when their starts do in some place. -/
theorem ne_of_hasHead {head' t : String} (hs : hasHead head s = true) (ht : hasHead head' t = true)
    (h : ∃ c ∈ head.toList.zip head'.toList, c.1 ≠ c.2) : s ≠ t := by
  obtain ⟨rest, rfl⟩ := hasHead_iff.mp hs
  obtain ⟨rest', rfl⟩ := hasHead_iff.mp ht
  intro heq
  have hlists : head.toList ++ rest.toList = head'.toList ++ rest'.toList := by
    rw [← String.toList_append, heq, String.toList_append]
  generalize head.toList = cs, head'.toList = ds at h hlists
  -- The induction is on the first start: where equal texts go on alike, the starts cannot differ.
  induction cs generalizing ds with
  | nil => simp at h
  | cons c cs ih =>
    cases ds with
    | nil => simp at h
    | cons d ds =>
      obtain ⟨rfl, hrest⟩ := List.cons_eq_cons.mp hlists
      exact ih ds (by simpa using h) hrest

end ScopeAlgebra.Text
