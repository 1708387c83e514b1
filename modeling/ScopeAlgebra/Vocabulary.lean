import ScopeAlgebra.Text.Quoted

/-!
# Closed vocabularies

A vocabulary is a finite type whose members are written as fixed words. `ofWord?` reads a word back,
and `word_injective` says that no two members share one.
-/

namespace ScopeAlgebra

/-- A finite type with a word for each member, listed in order of declaration. -/
class Vocabulary (α : Type) where
  /-- What a member is called in messages. -/
  title : String
  /-- Every member, in order. -/
  all : List α
  /-- The word of a member. -/
  word : α → String
  /-- Looking a member's word up among all members gives the member. -/
  find_word : ∀ a : α, all.find? (fun b => decide (word b = word a)) = some a

export Vocabulary (word)

namespace Vocabulary

variable {α : Type} [Vocabulary α]

/-- The member written as `w`. -/
def ofWord? (w : String) : Option α := all.find? fun b => decide (word b = w)

@[simp] theorem ofWord?_word (a : α) : ofWord? (word a) = some a := find_word a

/-- What is read back is written as the word it was read from. -/
theorem word_of_ofWord? {w : String} {a : α} (h : ofWord? w = some a) : word a = w := by
  simpa using List.find?_some h

/-- Different members have different words. -/
theorem word_injective {a b : α} (h : word a = word b) : a = b := by
  have : some a = some b := by rw [← ofWord?_word a, ← ofWord?_word b, h]
  exact Option.some.inj this

/-- Every member is listed. -/
theorem mem_all (a : α) : a ∈ (all : List α) := List.mem_of_find?_eq_some (find_word a)

end Vocabulary

/-- A word that is in no vocabulary where one was expected. -/
structure UnknownWord where
  written : String
  title : String

/-- The text of an unknown word. -/
def UnknownWord.message (e : UnknownWord) : String := s!"{e.written} is not a valid {e.title}"

/-- Reads a word or says that it is unknown. -/
def Vocabulary.read (α : Type) [Vocabulary α] (w : String) : Except UnknownWord α :=
  match ofWord? w with
  | some a => .ok a
  | none => .error ⟨Text.quoted w, title α⟩

end ScopeAlgebra
