import ScopeAlgebra.Vocabulary

/-!
# Strict and lenient resolution

Under the strict policy the first failure aborts. Under the lenient one a failure becomes a
diagnostic, and the failure mode of the atom decides what stands in for it. The effective policy is
the most specific one given: at the call, in the request, in the settings.
-/

namespace ScopeAlgebra

/-- How failures to resolve are handled. -/
inductive Policy where
  | strict
  | lenient
  deriving DecidableEq, Repr, Inhabited

instance : Vocabulary Policy where
  title := "ResolutionPolicy"
  all := [.strict, .lenient]
  word
    | .strict => "strict"
    | .lenient => "lenient"
  find_word := by intro a; cases a <;> rfl

/-- What lenient resolution does with an atom that fails to resolve. -/
inductive FailureMode where
  | fail
  | emptyScope
  | skip
  deriving DecidableEq, Repr, Inhabited

instance : Vocabulary FailureMode where
  title := "FailureMode"
  all := [.fail, .emptyScope, .skip]
  word
    | .fail => "fail"
    | .emptyScope => "empty_scope"
    | .skip => "skip"
  find_word := by intro a; cases a <;> rfl

namespace Policy

/-- The policy that a strictness flag stands for. -/
def ofStrict (strict : Bool) : Policy := if strict then .strict else .lenient

/-- The effective policy: that of the call, else of the request, else of the settings. -/
def effective (settings : Policy) (request? call? : Option Policy) : Policy :=
  (call? <|> request?).getD settings

/-- Whether a failure under the given mode aborts the whole program. -/
def aborts (policy : Policy) (mode : FailureMode) : Bool := policy = .strict || mode = .fail

end Policy

/-- The effective failure mode: that of the atom, else the default of the request. -/
def FailureMode.effective (atom? : Option FailureMode) (default : FailureMode) : FailureMode :=
  atom?.getD default

end ScopeAlgebra
