import ScopeAlgebra.Vocabulary

/-!
# Shapes

The shape of a predicate says whether the files it accepts can be enumerated. Combining two
predicates keeps a shape they share and is mixed otherwise.
-/

namespace ScopeAlgebra

/-- How a predicate can be used: global ones are enumerable and have a complement, local ones are
explicit snapshots, mixed ones can be tested per file only. -/
inductive Shape where
  | global
  | snapshot
  | mixed
  deriving DecidableEq, Repr, Inhabited

instance : Vocabulary Shape where
  title := "Shape"
  all := [.global, .snapshot, .mixed]
  word
    | .global => "global"
    | .snapshot => "local"
    | .mixed => "mixed"
  find_word := by intro a; cases a <;> rfl

namespace Shape

/-- The shape's word in capitals. -/
def capitals : Shape → String
  | .global => "GLOBAL"
  | .snapshot => "LOCAL"
  | .mixed => "MIXED"

/-- The shape of an intersection or union. -/
def combine (left right : Shape) : Shape := if left = right then left else .mixed

@[simp] theorem combine_self (s : Shape) : combine s s = s := by simp [combine]

theorem combine_comm (s t : Shape) : combine s t = combine t s := by cases s <;> cases t <;> rfl

theorem combine_assoc (s t u : Shape) : combine (combine s t) u = combine s (combine t u) := by
  cases s <;> cases t <;> cases u <;> rfl

end Shape

end ScopeAlgebra
