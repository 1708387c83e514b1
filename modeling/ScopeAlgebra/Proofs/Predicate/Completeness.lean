import Mathlib.Logic.Relation
import ScopeAlgebra.Proofs.Predicate.Assembled
import ScopeAlgebra.Proofs.Predicate.Split

/-!
# Splits are complete

A mixed intersection is split as soon as some global operand lies below it with nothing but mixed
intersections in between, and a mixed union likewise: `splitsAs_iff` says that no such operand is
missed, and that there is no other way to be split. A split of the other sort below does not help.
Foreign leaves are taken to present no parts of their own.
-/

namespace ScopeAlgebra.Predicate

variable {conjunctive : Bool} {left right p q : Predicate} {left? right? : Option Split}
  {leaves : List Predicate} {s : Split}

/-- A leaf that presents no parts: a filter, a snapshot, the empty predicate or a foreign predicate
without parts. -/
def IsPlainLeaf : Predicate → Prop
  | .filter _ _ | .snapshot _ _ | .nothing | .foreign _ => True
  | .inter _ _ | .union _ _ | .compl _ | .foreignSplit _ _ _ _ => False

/-- A predicate is an operand of a mixed intersection, or else of a mixed union. -/
def MixedOperand (conjunctive : Bool) (p q : Predicate) : Prop :=
  p.shape = .mixed ∧ ∃ other, p = joined conjunctive q other ∨ p = joined conjunctive other q

/-- A global operand is reached from a predicate by going down through mixed intersections only, or
else through mixed unions only. -/
def ReachesGlobal (conjunctive : Bool) (p : Predicate) : Prop :=
  ∃ q, Relation.TransGen (MixedOperand conjunctive) p q ∧ q.shape = .global

/-- A predicate offers a split of the given sort. -/
def SplitsAs (conjunctive : Bool) (p : Predicate) : Prop :=
  ∃ s, p.split? = some s ∧ s.conjunctive = conjunctive

/-! ## What is reached -/

/-- Predicates are joined in one sort and by one pair of operands only. -/
theorem joined_inj {conjunctive' : Bool} {left' right' : Predicate} :
    joined conjunctive left right = joined conjunctive' left' right' ↔
      conjunctive = conjunctive' ∧ left = left' ∧ right = right' := by
  cases conjunctive <;> cases conjunctive' <;> simp [joined]

/-- One step down a global operand is found, or reached from there. -/
theorem reachesGlobal_iff : ReachesGlobal conjunctive p ↔
    ∃ q, MixedOperand conjunctive p q ∧ (q.shape = .global ∨ ReachesGlobal conjunctive q) := by
  constructor
  · rintro ⟨r, hpath, hglobal⟩
    obtain ⟨q, hstep, hrest⟩ := Relation.TransGen.head'_iff.mp hpath
    refine ⟨q, hstep, ?_⟩
    rcases Relation.reflTransGen_iff_eq_or_transGen.mp hrest with rfl | hrest
    · exact .inl hglobal
    · exact .inr ⟨r, hrest, hglobal⟩
  · rintro ⟨q, hstep, hglobal | ⟨r, hrest, hglobal⟩⟩
    · exact ⟨q, .single hstep, hglobal⟩
    · exact ⟨r, .head hstep hrest, hglobal⟩

/-- From joined predicates a global operand is reached in their own sort only, when the result is
mixed and one of the two is global or reaches one. -/
theorem reachesGlobal_joined {conjunctive' : Bool} :
    ReachesGlobal conjunctive (joined conjunctive' left right) ↔
    (left.shape.combine right.shape = .mixed ∧ conjunctive = conjunctive') ∧
      ((left.shape = .global ∨ ReachesGlobal conjunctive left) ∨
        right.shape = .global ∨ ReachesGlobal conjunctive right) := by
  have hoperand (q : Predicate) : MixedOperand conjunctive (joined conjunctive' left right) q ↔
      (left.shape.combine right.shape = .mixed ∧ conjunctive = conjunctive') ∧
      (q = left ∨ q = right) := by
    rw [MixedOperand, shape_joined, and_assoc]
    refine and_congr_right fun _ => ?_
    simp only [joined_inj, exists_or]
    constructor
    · rintro (⟨other, rfl, rfl, rfl⟩ | ⟨other, rfl, rfl, rfl⟩) <;> simp
    · rintro ⟨rfl, rfl | rfl⟩
      · exact .inl ⟨right, rfl, rfl, rfl⟩
      · exact .inr ⟨left, rfl, rfl, rfl⟩
  rw [reachesGlobal_iff]
  simp only [hoperand, and_assoc, exists_and_left, or_and_right, exists_or, exists_eq_left]

/-- Nothing is reached from a predicate that is not joined. -/
theorem not_reachesGlobal (hinter : ∀ left right, p ≠ .inter left right)
    (hunion : ∀ left right, p ≠ .union left right) : ¬ ReachesGlobal conjunctive p := by
  rw [reachesGlobal_iff]
  rintro ⟨q, ⟨-, other, h | h⟩, -⟩ <;> cases conjunctive
  · exact hunion _ _ h
  · exact hinter _ _ h
  · exact hunion _ _ h
  · exact hinter _ _ h

/-! ## What is split -/

/-- Joined predicates have a split when they are global or have splits of their own. -/
theorem isSome_splitJoined : (splitJoined conjunctive left right left? right?).isSome ↔
    (left.shape = .global ∨ left?.isSome) ∨ right.shape = .global ∨ right?.isSome := by
  unfold splitJoined
  split
  next hglobal => simp [hglobal]
  next hleft =>
    split
    next hglobal => simp [hglobal]
    next hright => cases left? <;> cases right? <;> simp [hleft, hright]

/-- Joined predicates are split in their own sort. -/
theorem conjunctive_of_splitJoined (h : splitJoined conjunctive left right left? right? = some s) :
    s.conjunctive = conjunctive := by
  unfold splitJoined at h
  split at h
  · cases h
    rfl
  · split at h
    · cases h
      rfl
    · split at h <;> cases h <;> rfl

/-- A predicate offers a split of a sort when one is left after those of the other sort are
dropped. -/
theorem isSome_filter_split? :
    (p.split?.filter (·.conjunctive = conjunctive)).isSome ↔ SplitsAs conjunctive p := by
  simp [SplitsAs, Option.any_eq_true]

/-- Joined predicates are split in their own sort only, when the result is mixed and one of the two
is global or split in the same sort. -/
theorem splitsAs_joined {conjunctive' : Bool} :
    SplitsAs conjunctive (joined conjunctive' left right) ↔
    (left.shape.combine right.shape = .mixed ∧ conjunctive = conjunctive') ∧
      ((left.shape = .global ∨ SplitsAs conjunctive left) ∨ right.shape = .global ∨
        SplitsAs conjunctive right) := by
  constructor
  -- A split comes from an operand that is global or from the split of one.
  · rintro ⟨s, hs, rfl⟩
    rw [split?_joined] at hs
    split at hs
    next hmixed =>
      have hbelow := isSome_splitJoined.mp (Option.isSome_of_eq_some hs)
      rw [← conjunctive_of_splitJoined hs, isSome_filter_split?, isSome_filter_split?] at hbelow
      exact ⟨⟨hmixed, conjunctive_of_splitJoined hs⟩, hbelow⟩
    · contradiction
  · rintro ⟨⟨hmixed, rfl⟩, hbelow⟩
    rw [← isSome_filter_split?, ← isSome_filter_split?] at hbelow
    obtain ⟨s, hs⟩ := Option.isSome_iff_exists.mp (isSome_splitJoined.mpr hbelow)
    refine ⟨s, ?_, conjunctive_of_splitJoined hs⟩
    rw [split?_joined, if_pos hmixed, hs]

/-! ## Whole predicates -/

/-- A predicate that is not joined and presents no parts has no split, and nothing is reached from
it. -/
theorem splitsAs_iff_of_unsplit (hsplit : p.split? = none)
    (hinter : ∀ left right, p ≠ .inter left right) (hunion : ∀ left right, p ≠ .union left right) :
    SplitsAs conjunctive p ↔ ReachesGlobal conjunctive p := by
  have hnone : ¬ SplitsAs conjunctive p := by
    rintro ⟨s, hs, -⟩
    rw [hsplit] at hs
    contradiction
  exact iff_of_false hnone (not_reachesGlobal hinter hunion)

/-- A plain leaf has no split, and no global operand is reached from it. -/
theorem splitsAs_iff_of_isPlainLeaf (h : p.IsPlainLeaf) :
    SplitsAs conjunctive p ↔ ReachesGlobal conjunctive p := by
  cases p with
  | inter | union | compl | foreignSplit => exact h.elim
  | filter | snapshot | nothing | foreign => exact splitsAs_iff_of_unsplit rfl (by simp) (by simp)

/-- A predicate that is built from plain leaves is split exactly in the sort in which it reaches a
global operand. -/
theorem Assembled.splitsAs_iff (h : Assembled leaves p) (hleaves : ∀ q ∈ leaves, q.IsPlainLeaf) :
    SplitsAs conjunctive p ↔ ReachesGlobal conjunctive p := by
  have hjoined (sort : Bool) {left right : Predicate}
      (hleft : SplitsAs conjunctive left ↔ ReachesGlobal conjunctive left)
      (hright : SplitsAs conjunctive right ↔ ReachesGlobal conjunctive right) :
      SplitsAs conjunctive (joined sort left right) ↔
        ReachesGlobal conjunctive (joined sort left right) := by
    rw [splitsAs_joined, reachesGlobal_joined, hleft, hright]
  -- The induction is on how the predicate was built: splitting and reaching follow the same law at
  -- every joint.
  induction h with
  | leaf p => exact splitsAs_iff_of_isPlainLeaf (hleaves p (List.mem_singleton_self p))
  | inter _ _ ihl ihr =>
    obtain ⟨hl, hr⟩ := List.forall_mem_append.mp hleaves
    exact hjoined true (ihl hl) (ihr hr)
  | union _ _ ihl ihr =>
    obtain ⟨hl, hr⟩ := List.forall_mem_append.mp hleaves
    exact hjoined false (ihl hl) (ihr hr)
  | compl _ hp _ =>
    obtain ⟨-, rfl⟩ := complement_eq_ok.mp hp
    exact splitsAs_iff_of_unsplit rfl (by simp) (by simp)

/-- What is built from plain leaves has no foreign leaf that could be wrong about its parts. -/
theorem Assembled.leavesFaithful (h : Assembled leaves p) (hleaves : ∀ q ∈ leaves, q.IsPlainLeaf) :
    p.LeavesFaithful := by
  -- Only a foreign leaf with parts could be unfaithful, and none is among the leaves.
  induction h with
  | leaf p =>
    have hp := hleaves p (List.mem_singleton_self p)
    cases p with
    | inter | union | compl | foreignSplit => exact hp.elim
    | filter | snapshot | nothing | foreign => trivial
  | inter _ _ ihl ihr | union _ _ ihl ihr =>
    obtain ⟨hl, hr⟩ := List.forall_mem_append.mp hleaves
    exact ⟨ihl hl, ihr hr⟩
  | compl _ hp ih =>
    obtain ⟨-, rfl⟩ := complement_eq_ok.mp hp
    exact ih hleaves

/-- A predicate that is built from plain leaves is split conjunctively exactly when it is an
intersection from which a global operand is reached through mixed intersections, disjunctively
exactly when it is a union from which one is reached through mixed unions, and otherwise not at all.
The global part of a split is global. -/
theorem splits_complete (h : Assembled leaves p) (hleaves : ∀ q ∈ leaves, q.IsPlainLeaf) :
    ((∃ s, p.split? = some s ∧ s.conjunctive = true) ↔
        (∃ left right, p = .inter left right) ∧ ReachesGlobal true p) ∧
      ((∃ s, p.split? = some s ∧ s.conjunctive = false) ↔
        (∃ left right, p = .union left right) ∧ ReachesGlobal false p) ∧
      (p.split? = none ↔ ¬ ReachesGlobal true p ∧ ¬ ReachesGlobal false p) ∧
      ∀ s, p.split? = some s → s.globalPart.shape = .global := by
  have hjoined {sort : Bool} (hreaches : ReachesGlobal sort p) :
      ∃ left right, p = joined sort left right := by
    obtain ⟨q, ⟨-, other, hq | hq⟩, -⟩ := reachesGlobal_iff.mp hreaches
    · exact ⟨q, other, hq⟩
    · exact ⟨other, q, hq⟩
  have hiff (sort : Bool) : SplitsAs sort p ↔ ReachesGlobal sort p := h.splitsAs_iff hleaves
  refine ⟨?_, ?_, ?_, fun s hs => (faithful_split? (h.leavesFaithful hleaves) hs).globalPart_shape⟩
  · exact (hiff true).trans (and_iff_right_of_imp hjoined).symm
  · exact (hiff false).trans (and_iff_right_of_imp hjoined).symm
  · rw [← hiff, ← hiff]
    cases hsplit : p.split? with
    | none => simp [SplitsAs, hsplit]
    | some s => cases hsort : s.conjunctive <;> simp [SplitsAs, hsplit, hsort]

/-- Test files. -/
def testFiles : Predicate := .filter "Tests" fun f => f.root = .test

/-- Open files that are tests two intersections deeper, and that are also changed files or tests. -/
def nestedOpen : Predicate :=
  .inter (.inter (.snapshot "Open" ["a", "b"]) (.inter (.snapshot "Recent" ["b", "c"]) testFiles))
    (.union (.snapshot "Changed" ["b"]) testFiles)

/-- The tests below the intersections give the split, and those below the union do not matter. Under
a union the tests below an intersection give none. -/
theorem splits_nestedOpen :
    (∃ leaves, Assembled leaves nestedOpen ∧ ∀ q ∈ leaves, q.IsPlainLeaf) ∧
      (∃ s, nestedOpen.split? = some s ∧ s.conjunctive = true ∧ s.globalPart.shape = .global) ∧
      (∃ leaves, Assembled leaves (.union (.snapshot "Changed" ["c"]) nestedOpen) ∧
        ∀ q ∈ leaves, q.IsPlainLeaf) ∧
      (Predicate.union (.snapshot "Changed" ["c"]) nestedOpen).split? = none := by
  have hnested : Assembled [.snapshot "Open" ["a", "b"], .snapshot "Recent" ["b", "c"], testFiles,
      .snapshot "Changed" ["b"], testFiles] nestedOpen :=
    .inter (.inter (.leaf _) (.inter (.leaf _) (.leaf _))) (.union (.leaf _) (.leaf _))
  have hwhole := Assembled.union (.leaf (.snapshot "Changed" ["c"])) hnested
  have hleaves : ∀ q ∈ [.snapshot "Open" ["a", "b"], .snapshot "Recent" ["b", "c"], testFiles,
      .snapshot "Changed" ["b"], testFiles], q.IsPlainLeaf := by
    simp [IsPlainLeaf, testFiles]
  have hwholeLeaves := List.forall_mem_append.mpr
    ⟨List.forall_mem_singleton.mpr (show IsPlainLeaf (.snapshot "Changed" ["c"]) from trivial),
    hleaves⟩
  have hreaches : ReachesGlobal true nestedOpen :=
    ⟨testFiles, .head ⟨rfl, _, .inl rfl⟩ (.head ⟨rfl, _, .inr rfl⟩ (.single ⟨rfl, _, .inr rfl⟩)),
      rfl⟩
  have hunreached (sort : Bool) :
      ¬ ReachesGlobal sort (joined false (.snapshot "Changed" ["c"]) nestedOpen) := by
    rw [reachesGlobal_joined]
    rintro ⟨⟨-, rfl⟩, (h | h) | h | h⟩
    · contradiction
    · exact not_reachesGlobal (by simp) (by simp) h
    · contradiction
    · -- What lies below is an intersection, which is not passed through under a union.
      obtain ⟨⟨-, hsort⟩, -⟩ := (@reachesGlobal_joined false _ _ true).mp h
      contradiction
  obtain ⟨hconjunctive, -, -, hglobal⟩ := splits_complete hnested hleaves
  obtain ⟨s, hs, hsort⟩ := hconjunctive.mpr ⟨⟨_, _, rfl⟩, hreaches⟩
  exact ⟨⟨_, hnested, hleaves⟩, ⟨s, hs, hsort, hglobal s hs⟩, ⟨_, hwhole, hwholeLeaves⟩,
    (splits_complete hwhole hwholeLeaves).2.2.1.mpr ⟨hunreached true, hunreached false⟩⟩

end ScopeAlgebra.Predicate
