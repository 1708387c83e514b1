import ScopeAlgebra.Predicate.Split

/-!
# Faithful splits

A split is faithful to a predicate when its parts, joined as it says, accept the same files and its
global part can be enumerated. `faithful_parts?` says that every split the planner works with is
faithful, for predicates of any depth whose foreign leaves are truthful about their own parts.
-/

namespace ScopeAlgebra

/-- Whether the parts of a split, joined as it says, accept a file. -/
def Split.accepts (s : Split) (f : File) : Bool :=
  if s.conjunctive then s.globalPart.contains f && s.localPart.contains f
  else s.globalPart.contains f || s.localPart.contains f

/-- A split accepts what the predicate accepts, and its global part is global. -/
structure Split.Faithful (s : Split) (p : Predicate) : Prop where
  contains_eq : ∀ f, p.contains f = s.accepts f
  globalPart_shape : s.globalPart.shape = .global

namespace Predicate

/-- Every foreign leaf that answers with two parts answers faithfully: its parts are joined by "and"
in the conjunctive form and by "or" in the others. -/
def LeavesFaithful : Predicate → Prop
  | .inter left right | .union left right => left.LeavesFaithful ∧ right.LeavesFaithful
  | .compl operand => operand.LeavesFaithful
  | .foreignSplit leaf form globalPart localPart =>
    Split.Faithful ⟨globalPart, localPart, form = .conjunctive⟩
      (.foreignSplit leaf form globalPart localPart)
  | .filter _ _ | .snapshot _ _ | .nothing | .foreign _ => True

/-! ## Joining the splits of operands -/

variable {left right : Predicate} {left? right? : Option Split} {s : Split}

/-- Joined predicates accept a file when both of them do, or when one of them does. -/
theorem contains_joined (conjunctive : Bool) (left right : Predicate) (f : File) :
    (joined conjunctive left right).contains f =
      if conjunctive then left.contains f && right.contains f
      else left.contains f || right.contains f := by
  cases conjunctive <;> rfl

/-- Joined predicates have the combined shape of the two, whichever way they are joined. -/
theorem shape_joined (conjunctive : Bool) (left right : Predicate) :
    (joined conjunctive left right).shape = left.shape.combine right.shape := by
  cases conjunctive <;> rfl

/-- From faithful splits of its operands that are joined as it is, a joined predicate gets a
faithful split. -/
theorem faithful_splitJoined (conjunctive : Bool)
    (hleft : ∀ l, left? = some l → l.conjunctive = conjunctive ∧ l.Faithful left)
    (hright : ∀ r, right? = some r → r.conjunctive = conjunctive ∧ r.Faithful right)
    (h : splitJoined conjunctive left right left? right? = some s) :
    s.Faithful (joined conjunctive left right) := by
  unfold splitJoined at h
  -- A global operand is taken as it stands, the left one first; otherwise the splits of the
  -- operands are put together.
  split at h
  next hglobal =>
    cases h
    exact ⟨fun f => contains_joined .., hglobal⟩
  · split at h
    next hglobal =>
      cases h
      refine ⟨fun f => ?_, hglobal⟩
      rw [contains_joined, Split.accepts, Bool.and_comm, Bool.or_comm]
    · -- The global part comes from the operands' own splits; regrouping the four tests is left.
      split at h
      next l r =>
        cases h
        obtain ⟨hlc, hl⟩ := hleft l rfl
        obtain ⟨hrc, hr⟩ := hright r rfl
        refine ⟨fun f => ?_, ?_⟩
        · simp only [contains_joined, Split.accepts, hl.contains_eq, hr.contains_eq, hlc, hrc]
          cases conjunctive <;> simp only [Bool.false_eq_true, if_true, if_false] <;> ac_rfl
        · rw [shape_joined, hl.globalPart_shape, hr.globalPart_shape, Shape.combine_self]
      next l =>
        cases h
        obtain ⟨hlc, hl⟩ := hleft l rfl
        refine ⟨fun f => ?_, hl.globalPart_shape⟩
        simp only [contains_joined, Split.accepts, hl.contains_eq, hlc]
        cases conjunctive <;> simp only [Bool.false_eq_true, if_true, if_false] <;> ac_rfl
      next r =>
        cases h
        obtain ⟨hrc, hr⟩ := hright r rfl
        refine ⟨fun f => ?_, hr.globalPart_shape⟩
        simp only [contains_joined, Split.accepts, hr.contains_eq, hrc]
        cases conjunctive <;> simp only [Bool.false_eq_true, if_true, if_false] <;> ac_rfl
      · contradiction

/-! ## Splits of whole predicates -/

/-- The split of joined predicates that are mixed, from those splits of the two that are of the same
sort. -/
theorem split?_joined (conjunctive : Bool) (left right : Predicate) :
    (joined conjunctive left right).split? =
    if left.shape.combine right.shape = .mixed then
      splitJoined conjunctive left right (left.split?.filter (·.conjunctive = conjunctive))
        (right.split?.filter (·.conjunctive = conjunctive))
    else none := by
  cases conjunctive <;> simp [joined, split?]

/-- Where the splits of both operands are faithful, so is that of the joined predicate. -/
theorem faithful_split?_joined (conjunctive : Bool)
    (hleft : ∀ l, left.split? = some l → l.Faithful left)
    (hright : ∀ r, right.split? = some r → r.Faithful right)
    (h : (joined conjunctive left right).split? = some s) :
    s.Faithful (joined conjunctive left right) := by
  rw [split?_joined] at h
  split at h
  · refine faithful_splitJoined conjunctive (fun l hl => ?_) (fun r hr => ?_) h
    · obtain ⟨hl, hsort⟩ := Option.filter_eq_some_iff.mp hl
      exact ⟨of_decide_eq_true hsort, hleft l hl⟩
    · obtain ⟨hr, hsort⟩ := Option.filter_eq_some_iff.mp hr
      exact ⟨of_decide_eq_true hsort, hright r hr⟩
  · contradiction

/-- A split that a predicate of any depth offers is faithful. -/
theorem faithful_split? {p : Predicate} (hp : p.LeavesFaithful) {s : Split}
    (h : p.split? = some s) : s.Faithful p := by
  -- The induction is on the predicate: what is joined is split by the splits of its operands, and a
  -- foreign leaf by its own.
  induction p generalizing s with
  | inter left right ihl ihr =>
    obtain ⟨hleft, hright⟩ := hp
    exact faithful_split?_joined true (fun _ => ihl hleft) (fun _ => ihr hright) h
  | union left right ihl ihr =>
    obtain ⟨hleft, hright⟩ := hp
    exact faithful_split?_joined false (fun _ => ihl hleft) (fun _ => ihr hright) h
  | foreignSplit leaf form globalPart localPart =>
    cases form with
    | pair => contradiction
    | disjunctive => cases h; exact hp
    | conjunctive => cases h; exact hp
  | filter | snapshot | nothing | compl | foreign => contradiction

/-- A split that the planner works with is faithful, a bare pair read as a union included. -/
theorem faithful_parts? {p : Predicate} (hp : p.LeavesFaithful) {s : Split}
    (h : p.parts? = some s) : s.Faithful p := by
  unfold parts? at h
  split at h
  · cases h
    exact hp
  · exact faithful_split? hp h

end Predicate

end ScopeAlgebra
