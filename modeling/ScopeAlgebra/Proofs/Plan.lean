import ScopeAlgebra.Plan
import ScopeAlgebra.Proofs.Predicate.Split
import ScopeAlgebra.Workspace.Scopes

/-!
# Search plans are exact

A plan is exact for a predicate when enumerating and testing together accept the same files and what
is enumerated is global. Each of the planner's answers is exact, which `exact_ofResolved` puts
together: so a plan selects exactly the files of its scope, in order, and enumerates none too few.
-/

namespace ScopeAlgebra.SearchPlan

/-- A plan accepts what the predicate accepts and enumerates a global predicate. -/
structure Exact (plan : SearchPlan) (p : Predicate) : Prop where
  accepts_eq : ∀ f, plan.accepts f = p.contains f
  enumerated_shape : plan.enumerated.shape = .global

variable {plan : SearchPlan} {p : Predicate}

/-- An exact plan selects the files of the predicate, in the order in which they are given. -/
theorem Exact.select_eq (h : plan.Exact p) (files : List File) :
    plan.select files = files.filter p.contains := by
  rw [select]
  congr 1
  funext f
  exact h.accepts_eq f

/-- What an exact plan enumerates misses no file of the predicate. -/
theorem Exact.enumerated_contains (h : plan.Exact p) {f : File} (hf : p.contains f = true) :
    plan.enumerated.contains f = true := by
  rw [← h.accepts_eq f, accepts, Bool.and_eq_true] at hf
  exact hf.1

/-! ## The planner's answers -/

/-- Testing every file of the workspace by the scope itself is exact. -/
theorem exact_scan (scope : Resolved) (note : PlanNote) :
    (scan scope Workspace.everything note).Exact scope.predicate :=
  ⟨fun f => by simp [scan, accepts, Workspace.everything, Predicate.contains], rfl⟩

/-- A mixed scope gets an exact plan, from a faithful split or by a scan. -/
theorem exact_ofMixed (scope : Resolved) (hleaves : scope.predicate.LeavesFaithful) :
    (ofMixed scope Workspace.everything).Exact scope.predicate := by
  unfold ofMixed
  -- The planner uses the parts of the predicate when it presents some, and otherwise scans.
  split
  next s hparts =>
    have hs : s.Faithful scope.predicate := Predicate.faithful_parts? hleaves hparts
    simp only
    split
    next hconj =>
      refine ⟨fun f => ?_, hs.globalPart_shape⟩
      rw [hs.contains_eq f, Split.accepts, if_pos hconj]
      rfl
    next hdisj =>
      refine ⟨fun f => ?_, rfl⟩
      rw [hs.contains_eq f, Split.accepts, if_neg hdisj]
      simp [accepts, Workspace.everything, Predicate.contains]
  · exact exact_scan scope _

/-- A scope whose shape is that of its predicate gets an exact plan. -/
theorem exact_ofResolved (scope : Resolved) (hshape : scope.shape = scope.predicate.shape)
    (hleaves : scope.predicate.LeavesFaithful) :
    (ofResolved scope Workspace.everything).Exact scope.predicate := by
  unfold ofResolved
  -- One case for each shape: local, global and mixed.
  split
  · exact exact_scan scope _
  next hglobal =>
    exact ⟨fun f => by simp [accepts], hshape.symm.trans hglobal⟩
  · exact exact_ofMixed scope hleaves

/-- The plan of a scope selects exactly the files of the scope, in order, and what it enumerates is
global and misses none of them. -/
theorem select_ofResolved (scope : Resolved) (hshape : scope.shape = scope.predicate.shape)
    (hleaves : scope.predicate.LeavesFaithful) :
    (∀ files : List File,
        (ofResolved scope Workspace.everything).select files =
          files.filter scope.predicate.contains) ∧
      (ofResolved scope Workspace.everything).enumerated.shape = .global ∧
      ∀ f, scope.predicate.contains f = true →
        (ofResolved scope Workspace.everything).enumerated.contains f = true := by
  have hexact := exact_ofResolved scope hshape hleaves
  exact ⟨hexact.select_eq, hexact.enumerated_shape, fun f => hexact.enumerated_contains⟩

/-- Test files that are also open, joined with a foreign predicate that splits into test files and
one url: the global part lies two intersections deep on one side and in a foreign leaf on the
other. -/
def nestedScope : Resolved :=
  let tests : Predicate := .filter "Tests" fun f => f.root = .test
  let leaf : Foreign := ⟨"Chosen", "Chosen tests", .mixed, fun f => f.root = .test && f.url = "b"⟩
  let p : Predicate :=
    .inter (.inter (.snapshot "Open" ["a", "b"]) (.inter tests (.snapshot "Recent" ["b", "c"])))
      (.foreignSplit leaf .conjunctive tests (.filter "One" fun f => f.url = "b"))
  ⟨p, p.displayName, .mixed, []⟩

/-- Of three files in tests the nested scope selects the one that all parts accept. -/
theorem select_nestedScope :
    nestedScope.shape = nestedScope.predicate.shape ∧ nestedScope.predicate.LeavesFaithful ∧
      (ofResolved nestedScope Workspace.everything).select
        [⟨"a", "a", none, .test, none⟩, ⟨"b", "b", none, .test, none⟩,
          ⟨"c", "c", none, .test, none⟩]
        = [⟨"b", "b", none, .test, none⟩] := by
  have hshape : nestedScope.shape = nestedScope.predicate.shape := by decide
  have hleaves : nestedScope.predicate.LeavesFaithful :=
    ⟨⟨trivial, trivial, trivial⟩, fun f => rfl, rfl⟩
  refine ⟨hshape, hleaves, ?_⟩
  rw [(select_ofResolved nestedScope hshape hleaves).1]
  decide

end ScopeAlgebra.SearchPlan
