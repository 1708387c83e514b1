import ScopeAlgebra.Diagnostics
import ScopeAlgebra.Error

/-!
# Results with notes

A noted result is an error, or a value with the diagnostics that were noted on the way to it.
Running one after another keeps the notes in order.
-/

namespace ScopeAlgebra

/-- A value with what was noted, or an error. -/
abbrev Noted (α : Type) := Except EngineError (α × Diagnostics)

namespace Noted

/-- A value about which nothing was noted. -/
def plain {α : Type} (a : α) : Noted α := .ok (a, [])

/-- A value with one note. -/
def withNote {α : Type} (a : α) (note : String) : Noted α := .ok (a, [note])

/-- Runs `next` on the value; its notes follow. -/
def andThen {α β : Type} (x : Noted α) (next : α → Noted β) : Noted β :=
  match x with
  | .error e => .error e
  | .ok (a, notes) =>
    match next a with
    | .error e => .error e
    | .ok (b, more) => .ok (b, notes ++ more)

/-- Changes the value and keeps the notes. -/
def onValue {α β : Type} (x : Noted α) (f : α → β) : Noted β := x.andThen fun a => plain (f a)

@[simp] theorem error_andThen {α β : Type} (e : EngineError) (next : α → Noted β) :
    andThen (.error e) next = .error e := rfl

@[simp] theorem plain_andThen {α β : Type} (a : α) (next : α → Noted β) :
    (plain a).andThen next = next a := by
  simp only [andThen, plain]
  rcases next a with e | ⟨b, more⟩ <;> simp

@[simp] theorem andThen_plain {α : Type} (x : Noted α) : x.andThen plain = x := by
  rcases x with e | ⟨a, notes⟩ <;> simp [andThen, plain]

/-- Running three results one after the other does not depend on how they are grouped. -/
theorem andThen_assoc {α β γ : Type} (x : Noted α) (f : α → Noted β) (g : β → Noted γ) :
    (x.andThen f).andThen g = x.andThen fun a => (f a).andThen g := by
  rcases x with e | ⟨a, notes⟩
  · rfl
  · simp only [andThen]
    rcases f a with e | ⟨b, more⟩
    · rfl
    · simp only
      rcases g b with e | ⟨c, last⟩
      · rfl
      · simp [List.append_assoc]

/-- A result that fails did so in its first part, or in what followed on the value of the first. -/
theorem andThen_eq_error {α β : Type} {x : Noted α} {next : α → Noted β} {e : EngineError} :
    x.andThen next = .error e ↔
      x = .error e ∨ ∃ a notes, x = .ok (a, notes) ∧ next a = .error e := by
  rcases x with e' | ⟨a, notes⟩
  · simp
  · cases hnext : next a with
    | error e' => simp [andThen, hnext]
    | ok b => simp [andThen, hnext]

end Noted

end ScopeAlgebra
