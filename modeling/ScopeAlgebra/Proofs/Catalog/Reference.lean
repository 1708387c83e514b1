import Mathlib.Data.List.Basic
import ScopeAlgebra.Catalog.Reference
import ScopeAlgebra.Proofs.Text.Blank

/-!
# Reference ids are told apart

The ids of standard scopes, of modules, of named scopes and of what providers contribute start with
different words. The parts of a standard id and of a module's id are read back from it; those of a
named scope's id need not be, since a holder's id and a scope's name may both hold colons.
-/

namespace ScopeAlgebra.RefId

variable {scopeId name name' holderId providerId displayName implementation : String}
  {flavor flavor' : ModuleFlavor}

/-! ## The first word of an id -/

/-- What stands in front of the first colon of an id. -/
def firstWord (refId : String) : List Char := refId.toList.takeWhile (· ≠ ':')

section

attribute [local simp] firstWord standard RefId.module named provider pattern directory files

/-- The id of a standard scope starts with its word. -/
@[simp] theorem firstWord_standard : firstWord (standard scopeId) = "standard".toList := by
  simp

/-- The id of a module's scope starts with its word, whatever the module is called. -/
@[simp] theorem firstWord_module : firstWord (RefId.module name flavor) = "module".toList := by
  simp

/-- The id of a named scope starts with its word, whatever holder and scope are called. -/
@[simp] theorem firstWord_named : firstWord (named holderId name) = "named".toList := by
  simp

/-- The id of what a provider contributes starts with its word. -/
@[simp] theorem firstWord_provider :
    firstWord (provider providerId displayName implementation) = "provider".toList := by
  simp

/-- The id of a pattern starts with its word. -/
@[simp] theorem firstWord_pattern (canonical : String) :
    firstWord (pattern canonical) = "pattern".toList := by
  simp

/-- The id of a directory starts with its word, though the url holds colons of its own. -/
@[simp] theorem firstWord_directory (url : String) :
    firstWord (directory url) = "directory".toList := by
  simp

/-- The id of a set of files starts with its word. -/
@[simp] theorem firstWord_files (urls : List String) : firstWord (files urls) = "files".toList := by
  simp

end

/-! ## Ids of different families -/

/-- Ids that start with different words are different. -/
theorem ne_of_firstWord {s t : String} (h : firstWord s ≠ firstWord t) : s ≠ t :=
  fun hst => h (congrArg firstWord hst)

/-- No standard scope has the id of a module's scope. -/
theorem standard_ne_module : standard scopeId ≠ RefId.module name flavor :=
  ne_of_firstWord (by rw [firstWord_standard, firstWord_module]; decide)

/-- No standard scope has the id of a named scope. -/
theorem standard_ne_named : standard scopeId ≠ named holderId name :=
  ne_of_firstWord (by rw [firstWord_standard, firstWord_named]; decide)

/-- No standard scope has the id of what a provider contributes. -/
theorem standard_ne_provider :
    standard scopeId ≠ provider providerId displayName implementation :=
  ne_of_firstWord (by rw [firstWord_standard, firstWord_provider]; decide)

/-- No module's scope has the id of a named scope. -/
theorem module_ne_named : RefId.module name flavor ≠ named holderId name' :=
  ne_of_firstWord (by rw [firstWord_module, firstWord_named]; decide)

/-- No module's scope has the id of what a provider contributes. -/
theorem module_ne_provider :
    RefId.module name flavor ≠ provider providerId displayName implementation :=
  ne_of_firstWord (by rw [firstWord_module, firstWord_provider]; decide)

/-- No named scope has the id of what a provider contributes. -/
theorem named_ne_provider :
    named holderId name ≠ provider providerId displayName implementation :=
  ne_of_firstWord (by rw [firstWord_named, firstWord_provider]; decide)

/-! ## The parts of an id -/

/-- A standard id tells which scope it is of. -/
theorem standard_injective {scopeId' : String} (h : standard scopeId = standard scopeId') :
    scopeId = scopeId' := by
  simpa [standard] using h

/-- A text is divided in one way only at its last colon. -/
theorem append_colon_injective {s s' t t' : List Char} (ht : ':' ∉ t) (ht' : ':' ∉ t')
    (h : s ++ ':' :: t = s' ++ ':' :: t') : s = s' ∧ t = t' := by
  -- The two texts overlap, and what lies between their last colons can only be nothing.
  rcases List.append_eq_append_iff.mp h with ⟨u, rfl, hu⟩ | ⟨u, rfl, hu⟩
  · cases u with
    | nil => simpa using hu
    | cons c u =>
      obtain ⟨-, rfl⟩ := List.cons.inj hu
      exact absurd (by simp) ht
  · cases u with
    | nil => simpa using hu.symm
    | cons c u =>
      obtain ⟨-, rfl⟩ := List.cons.inj hu
      exact absurd (by simp) ht'

/-- A module's id tells its name and the flavor, since no flavor is written with a colon. -/
theorem module_injective (h : RefId.module name flavor = RefId.module name' flavor') :
    name = name' ∧ flavor = flavor' := by
  have hcolon (flavor : ModuleFlavor) : ':' ∉ (word flavor).toList := by cases flavor <;> decide
  have hparts : name.toList ++ ':' :: (word flavor).toList = name'.toList ++
      ':' :: (word flavor').toList := by
    simpa [RefId.module, ← String.toList_inj] using h
  obtain ⟨hname, hflavor⟩ := append_colon_injective (hcolon flavor) (hcolon flavor') hparts
  exact ⟨String.toList_inj.mp hname, Vocabulary.word_injective (String.toList_inj.mp hflavor)⟩

/-- The id of a named scope tells the holder and the scope as long as no name of a scope holds a
colon. -/
theorem named_injective {holderId' : String} (hname : ':' ∉ name.toList)
    (hname' : ':' ∉ name'.toList) (h : named holderId name = named holderId' name') :
    holderId = holderId' ∧ name = name' := by
  have hparts : holderId.toList ++ ':' :: name.toList = holderId'.toList ++
      ':' :: name'.toList := by
    simpa [named, ← String.toList_inj] using h
  obtain ⟨hholder, hsame⟩ := append_colon_injective hname hname' hparts
  exact ⟨String.toList_inj.mp hholder, String.toList_inj.mp hsame⟩

/-- The id of a named scope tells the holder and the scope as long as no id of a holder holds a
colon: it is read from its other end then. -/
theorem named_injective_of_holder {holderId' : String} (hholder : ':' ∉ holderId.toList)
    (hholder' : ':' ∉ holderId'.toList) (h : named holderId name = named holderId' name') :
    holderId = holderId' ∧ name = name' := by
  have hparts : name.toList.reverse ++ ':' :: holderId.toList.reverse =
      name'.toList.reverse ++ ':' :: holderId'.toList.reverse := by
    have hchars : holderId.toList ++ ':' :: name.toList = holderId'.toList ++
        ':' :: name'.toList := by
      simpa [named, ← String.toList_inj] using h
    simpa using congrArg List.reverse hchars
  obtain ⟨hname, hsame⟩ := append_colon_injective (by simpa using hholder)
    (by simpa using hholder') hparts
  exact ⟨String.toList_inj.mp (List.reverse_injective hsame),
    String.toList_inj.mp (List.reverse_injective hname)⟩

/-! ## Trimmed ids

White space can only stand at the end of an id, where the name that ends it has
some. -/

/-- The id of a standard scope is trimmed when the scope's own id is. -/
theorem present?_standard (h : Text.present? (some scopeId) = some scopeId) :
    Text.present? (some (standard scopeId)) = some (standard scopeId) := by
  have hhead : "standard:".toList.head? = some 's' := rfl
  exact Text.present?_append hhead (by decide) h

/-- The id of a named scope is trimmed when the scope's name is. -/
theorem present?_named (h : Text.present? (some name) = some name) :
    Text.present? (some (named holderId name)) = some (named holderId name) := by
  have hhead : ("named:" ++ holderId ++ ":").toList.head? = some 'n' := by simp
  exact Text.present?_append hhead (by decide) h

/-- The id of a module's scope is trimmed: it ends in the word of the flavor. -/
theorem present?_module :
    Text.present? (some (RefId.module name flavor)) = some (RefId.module name flavor) := by
  have hhead : ("module:" ++ name ++ ":").toList.head? = some 'm' := by simp
  exact Text.present?_append hhead (by decide) (by cases flavor <;> decide)

/-- The id of a named scope is trimmed exactly when the scope's name does not end in white space. -/
theorem present?_named_eq_self_iff :
    Text.present? (some (named holderId name)) = some (named holderId name) ↔
      ¬ Text.EndsBlank name := by
  have hhead : (named holderId name).toList.head? = some 'n' := by simp [named]
  have htrim : Text.trim (named holderId name) = named holderId name ↔
      ¬ Text.EndsBlank (named holderId name) :=
    Text.trim_eq_self_iff hhead (by decide)
  have hpresent : Text.present? (some (named holderId name)) = some (named holderId name) ↔
      Text.trim (named holderId name) = named holderId name :=
    ⟨Text.trim_of_present?, fun h => Text.present?_of_trim_eq h (by simp [named])⟩
  rw [hpresent, htrim]
  by_cases hname : name = ""
  · -- Without a name the id ends in a colon.
    subst hname
    have hchars : (named holderId "").toList = ("named:" ++ holderId).toList ++ [':'] := by
      simp [named]
    have hlast : (named holderId "").toList.getLast? = some ':' := by
      rw [hchars, List.getLast?_concat]
    refine not_congr (iff_of_false ?_ (by simp [Text.EndsBlank]))
    rintro ⟨c, hc, hblank⟩
    rw [hlast, Option.mem_some_iff] at hc
    subst hc
    exact absurd hblank (by decide)
  · exact not_congr (Text.endsBlank_append hname)

/-- The digits of a digest are no white space, and there are some. -/
theorem present?_shortHash (text : String) :
    Text.present? (some (Digest.shortHash text)) = some (Digest.shortHash text) := by
  have hdigit (n : Nat) : Text.isBlank (Nat.digitChar (n % 16)) = false := by
    have hdigits : ∀ i < 16, Text.isBlank (Nat.digitChar i) = false := by decide
    exact hdigits (n % 16) (Nat.mod_lt n (by decide))
  have hall (message : List UInt8) : ∀ c ∈ Digest.sha256 message, Text.isBlank c = false := by
    intro c hc
    obtain ⟨word, -, hc⟩ := List.mem_flatMap.mp hc
    obtain ⟨i, -, rfl⟩ := List.mem_map.mp hc
    exact hdigit _
  -- The digest is not computed here: its digits are known one by one, and their number from its
  -- form.
  have hlength (message : List UInt8) : (Digest.sha256 message).length = 64 := rfl
  set digits := (Digest.sha256 text.toUTF8.toList).take 12 with hdigits
  have hblank : ∀ c ∈ digits, Text.isBlank c = false :=
    fun c hc => hall _ c (List.mem_of_mem_take hc)
  have hne : digits ≠ [] := List.ne_nil_of_length_pos
    (by rw [hdigits, List.length_take, hlength]; decide)
  have hhash : Digest.shortHash text = String.ofList digits := rfl
  rw [hhash]
  refine Text.present?_of_trim_eq ?_ (by simpa using hne)
  rw [Text.trim, String.toList_ofList, Text.trimChars_of_ends]
  · exact fun c hc => hblank c (List.mem_of_mem_head? hc)
  · exact fun c hc => hblank c (List.mem_of_getLast? hc)

/-- The id of what a provider contributes is trimmed: it ends in a digest. -/
theorem present?_provider : Text.present? (some (provider providerId displayName implementation)) =
    some (provider providerId displayName implementation) := by
  have hhead : ("provider:" ++ providerId ++ ":").toList.head? = some 'p' := by simp
  exact Text.present?_append hhead (by decide) (present?_shortHash _)

end ScopeAlgebra.RefId
