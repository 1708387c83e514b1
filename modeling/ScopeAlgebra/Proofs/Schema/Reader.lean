import ScopeAlgebra.Proofs.Noted
import ScopeAlgebra.Schema.Field

/-!
# What readers yield

A reader that accepts a value may promise something about it. `Yields` states such a promise, and
each way to put readers together passes it on: to the items of a list, to a field, to the default
that stands for a missing one.
-/

namespace ScopeAlgebra

variable {α β : Type}

namespace Checked

/-- An application succeeds when both of its sides do. -/
theorem ap_eq_ok {f : Checked (α → β)} {x : Checked α} {b : β} :
    f.ap x = .ok b ↔ ∃ g a, f = .ok g ∧ x = .ok a ∧ g a = b := by
  rcases f with problems | g <;> rcases x with more | a <;> simp [ap]

/-- What holds of everything that a function can make holds of what its application gives. -/
theorem forall_ap {f : Checked (α → β)} {x : Checked α} {P : β → Prop}
    (h : ∀ g, f = .ok g → ∀ a, P (g a)) : ∀ b, f.ap x = .ok b → P b := by
  intro b hb
  obtain ⟨g, a, hg, -, rfl⟩ := ap_eq_ok.mp hb
  exact h g hg a

/-- Moving problems further in does not change what is accepted. -/
theorem inside_eq_ok {step : String} {x : Checked α} {a : α} : inside step x = .ok a ↔ x = .ok a :=
  mapError_eq_ok

end Checked

namespace Schema

/-- Whatever a reader accepts has a property. -/
def Yields (read : Reader α) (P : α → Prop) : Prop := ∀ json a, read json = .ok a → P a

variable {read : Reader α} {P : α → Prop} {fields : Json.Fields} {name : String} {intake : Intake}

/-- A text that may not be empty is not. -/
theorem yields_nonEmptyText : Yields nonEmptyText (· ≠ "") := by
  intro json s h
  obtain ⟨s', -, h⟩ := bind_eq_ok.mp h
  split at h
  · contradiction
  next hs =>
    obtain rfl : s' = s := Except.ok.inj h
    simpa [String.isEmpty_iff] using hs

/-- A list is read item by item. -/
theorem forall_of_eachFrom (h : Yields read P) {index : Nat} {items : List Json} {xs : List α}
    (hread : Checked.eachFrom read index items = .ok xs) : ∀ x ∈ xs, P x := by
  -- The index only names items in errors, so it stays free.
  induction items generalizing index xs with
  | nil =>
    cases hread
    simp
  | cons item rest ih =>
    obtain ⟨cons, xs', hfirst, hrest, rfl⟩ := Checked.ap_eq_ok.mp hread
    obtain ⟨_, x, hcons, hx, rfl⟩ := Checked.ap_eq_ok.mp hfirst
    cases hcons
    exact List.forall_mem_cons.mpr ⟨h item x (Checked.inside_eq_ok.mp hx), ih hrest⟩

/-- What holds of every item that is read holds of all items of a list. -/
theorem Yields.listOf (h : Yields read P) :
    Yields (listOf intake read) fun xs => ∀ x ∈ xs, P x := by
  intro json xs hread
  unfold Schema.listOf at hread
  split at hread
  · exact forall_of_eachFrom h hread
  · contradiction

/-- A field that has to be there is read from some value. -/
theorem Yields.required (h : Yields read P) {a : α} (hread : required fields name read = .ok a) :
    P a := by
  have hfield := Checked.inside_eq_ok.mp hread
  split at hfield
  next json _ => exact h json a hfield
  · contradiction

/-- A field with a default has the property when the default does. -/
theorem Yields.optional (h : Yields read P) {default a : α} (hdefault : P default)
    (hread : optional fields name default read = .ok a) : P a := by
  unfold Schema.optional at hread
  split at hread
  next json _ => exact h json a (Checked.inside_eq_ok.mp hread)
  · cases hread
    exact hdefault

/-- A model is read from the fields of an object. -/
theorem yields_model {title : String} {readFields : Json.Fields → Checked α}
    (h : ∀ fields a, readFields fields = .ok a → P a) :
    Yields (model intake title readFields) P := by
  intro json a hread
  unfold model at hread
  split at hread
  next fields => exact h fields a hread
  · contradiction

end Schema

end ScopeAlgebra
