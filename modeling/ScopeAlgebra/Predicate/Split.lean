import ScopeAlgebra.Predicate.Basic

/-!
# Splitting mixed predicates

A mixed predicate may be split into a global part, which can be enumerated, and a part that is
tested per file. In a conjunctive split the predicate is the intersection of its parts, otherwise
their union. An intersection splits conjunctively and a union disjunctively, as soon as one global
operand is found below.
-/

namespace ScopeAlgebra

/-- A predicate's global part, the part tested per file, and how they are joined. -/
structure Split where
  globalPart : Predicate
  localPart : Predicate
  conjunctive : Bool := false

namespace Predicate

/-- Two predicates joined as a split says: their intersection, or else their union. -/
def joined (conjunctive : Bool) (left right : Predicate) : Predicate :=
  if conjunctive then .inter left right else .union left right

/-- The split of two joined predicates, which have the given splits of the same sort. -/
def splitJoined (conjunctive : Bool) (left right : Predicate) (left? right? : Option Split) :
    Option Split :=
  if left.shape = .global then some ⟨left, right, conjunctive⟩
  else if right.shape = .global then some ⟨right, left, conjunctive⟩
  else
    -- No operand is global itself, so a global part can only come from below.
    match left?, right? with
    | some l, some r =>
      some ⟨joined conjunctive l.globalPart r.globalPart,
        joined conjunctive l.localPart r.localPart, conjunctive⟩
    | some l, none => some ⟨l.globalPart, joined conjunctive l.localPart right, conjunctive⟩
    | none, some r => some ⟨r.globalPart, joined conjunctive left r.localPart, conjunctive⟩
    | none, none => none

/-- The split that a predicate offers, a bare pair not counted. -/
def split? : Predicate → Option Split
  | .inter left right =>
    if (left.shape.combine right.shape) = .mixed then
      splitJoined true left right (left.split?.filter (·.conjunctive))
        (right.split?.filter (·.conjunctive))
    else none
  | .union left right =>
    if (left.shape.combine right.shape) = .mixed then
      splitJoined false left right (left.split?.filter (!·.conjunctive))
        (right.split?.filter (!·.conjunctive))
    else none
  | .foreignSplit _ .disjunctive globalPart localPart => some ⟨globalPart, localPart, false⟩
  | .foreignSplit _ .conjunctive globalPart localPart => some ⟨globalPart, localPart, true⟩
  | _ => none

/-- The split that the planner works with: a bare pair stands for a union. -/
def parts? : Predicate → Option Split
  | .foreignSplit _ .pair globalPart localPart => some ⟨globalPart, localPart, false⟩
  | p => p.split?

end Predicate

end ScopeAlgebra
