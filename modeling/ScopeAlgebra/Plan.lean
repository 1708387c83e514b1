import ScopeAlgebra.Diagnostics
import ScopeAlgebra.Predicate.Split

/-!
# Search plans

Only global predicates can be enumerated. A plan pairs a global predicate to enumerate with a test
of each file found, so that together they select exactly the files of a scope. The note says why a
test is needed.
-/

namespace ScopeAlgebra

/-- The result of evaluating a program. -/
structure Resolved where
  predicate : Predicate
  displayName : String
  shape : Shape
  diagnostics : Diagnostics := []

/-- Why a plan has to test files one by one. -/
inductive PlanNote where
  | isLocal
  | narrows (globalName localName : String)
  | combines (globalName localName : String)
  | boundedByLocal
  | indivisible
  deriving DecidableEq, Repr

/-- The text of a note on the scope `name`. -/
def PlanNote.message (name : String) : PlanNote → String
  | .isLocal =>
    "Scope '" ++ name ++ "' is local; scanning all files and filtering by local membership."
  | .narrows globalName localName =>
    "Scope '" ++ name ++ "' narrows global '" ++ globalName ++ "' by local '" ++ localName ++
      "'; members of the global part are checked per file."
  | .combines globalName localName =>
    "Scope '" ++ name ++ "' combines global '" ++ globalName ++ "' and local '" ++ localName ++
      "'; local members are checked per file."
  | .boundedByLocal =>
    "Scope '" ++ name ++
      "' is bounded only by local parts; scanning all files and testing membership per file."
  | .indivisible =>
    "Scope '" ++ name ++ "' is mixed and cannot be split into global and local parts; " ++
      "scanning all files and testing membership per file."

/-- A predicate to enumerate, a test of what it accepts, and the reason for the test. -/
structure SearchPlan where
  scopeName : String
  enumerated : Predicate
  test? : Option (File → Bool) := none
  note? : Option PlanNote := none

namespace SearchPlan

/-- Whether a plan selects a file. -/
def accepts (plan : SearchPlan) (f : File) : Bool :=
  plan.enumerated.contains f && (plan.test?.all fun test => test f)

/-- The files that a plan selects, in order. -/
def select (plan : SearchPlan) (files : List File) : List File := files.filter plan.accepts

/-- The diagnostics of a plan. -/
def diagnostics (plan : SearchPlan) : Diagnostics :=
  plan.note?.toList.map fun note => note.message plan.scopeName

/-- Whether a plan deserves a warning: the scope came from outside and cannot be divided. -/
def isWarning (plan : SearchPlan) : Bool := plan.note? = some .indivisible

/-- The plan that tests every file by the scope itself. -/
def scan (scope : Resolved) (everything : Predicate) (note : PlanNote) : SearchPlan :=
  ⟨scope.displayName, everything, some scope.predicate.contains, some note⟩

/-- The plan for a mixed scope. -/
def ofMixed (scope : Resolved) (everything : Predicate) : SearchPlan :=
  match scope.predicate.parts? with
  | some split =>
    let names := (split.globalPart.displayName, split.localPart.displayName)
    if split.conjunctive then
      ⟨scope.displayName, split.globalPart, some split.localPart.contains,
        some (.narrows names.1 names.2)⟩
    else
      ⟨scope.displayName, everything,
        some fun f => split.globalPart.contains f || split.localPart.contains f,
        some (.combines names.1 names.2)⟩
  | none =>
    scan scope everything (if scope.predicate.isNative then .boundedByLocal else .indivisible)

/-- The plan for a scope; `everything` accepts all files of the workspace. -/
def ofResolved (scope : Resolved) (everything : Predicate) : SearchPlan :=
  match scope.shape with
  | .snapshot => scan scope everything .isLocal
  | .global => ⟨scope.displayName, scope.predicate, none, none⟩
  | .mixed => ofMixed scope everything

end SearchPlan

end ScopeAlgebra
