import ScopeAlgebra.Predicate.Basic

/-!
# The shape of an assembled predicate

However deep a predicate is built, its shape is decided by the leaves that it is built from: a shape
that all leaves share is kept as long as it is global or local (`Assembled.shape_eq_iff`), and
otherwise the predicate is mixed (`Assembled.shape_eq_mixed_iff`). A complement changes nothing
about that, since it is refused unless its operand is global.
-/

namespace ScopeAlgebra

/-- A shape other than the mixed one is combined of two equal ones only. -/
theorem Shape.combine_eq_iff {left right s : Shape} (hs : s ≠ .mixed) :
    combine left right = s ↔ left = s ∧ right = s := by
  cases left <;> cases right <;> cases s <;> simp_all [combine]

namespace Predicate

variable {leaves : List Predicate} {operand p : Predicate} {s : Shape}

/-- Only a global predicate has a complement. -/
theorem complement_eq_ok :
    operand.complement = .ok p ↔ operand.shape = .global ∧ .compl operand = p := by
  unfold complement
  split
  next hglobal => simp [hglobal]
  next hother => simp [hother]

/-- A predicate that is built from leaves, in this order, by intersection, union and complement. A
leaf may be any predicate. -/
inductive Assembled : List Predicate → Predicate → Prop where
  | leaf (p : Predicate) : Assembled [p] p
  | inter {lefts rights : List Predicate} {left right : Predicate} (hleft : Assembled lefts left)
    (hright : Assembled rights right) : Assembled (lefts ++ rights) (.inter left right)
  | union {lefts rights : List Predicate} {left right : Predicate} (hleft : Assembled lefts left)
    (hright : Assembled rights right) : Assembled (lefts ++ rights) (.union left right)
  | compl {leaves : List Predicate} {operand p : Predicate} (hoperand : Assembled leaves operand)
    (hp : operand.complement = .ok p) : Assembled leaves p

/-- Nothing is built without leaves. -/
theorem Assembled.leaves_ne_nil (h : Assembled leaves p) : leaves ≠ [] := by
  induction h with
  | leaf p => exact List.cons_ne_nil p []
  | inter _ _ ihl _ | union _ _ ihl _ => exact List.append_ne_nil_of_left_ne_nil ihl _
  | compl _ _ ih => exact ih

/-- A predicate has a shape other than the mixed one exactly when all of its leaves have it. -/
theorem Assembled.shape_eq_iff (h : Assembled leaves p) (hs : s ≠ .mixed) :
    p.shape = s ↔ ∀ q ∈ leaves, q.shape = s := by
  -- The induction is on how the predicate was built; a shape that is combined is that of both
  -- sides.
  induction h with
  | leaf p => rw [List.forall_mem_singleton]
  | inter _ _ ihl ihr | union _ _ ihl ihr =>
    rw [shape, Shape.combine_eq_iff hs, ihl, ihr, List.forall_mem_append]
  | compl _ hp ih =>
    -- The operand has the shape that the complement has.
    obtain ⟨hglobal, rfl⟩ := complement_eq_ok.mp hp
    rw [← ih, hglobal]
    rfl

/-- A predicate is mixed exactly when its leaves are neither all global nor all local. -/
theorem Assembled.shape_eq_mixed_iff (h : Assembled leaves p) :
    p.shape = .mixed ↔
      (¬ ∀ q ∈ leaves, q.shape = .global) ∧ ¬ ∀ q ∈ leaves, q.shape = .snapshot := by
  rw [← h.shape_eq_iff (by decide), ← h.shape_eq_iff (by decide)]
  cases p.shape <;> simp

/-- A predicate is not local unless each of its leaves is. -/
theorem Assembled.shape_ne_snapshot (h : Assembled leaves p)
    (hleaves : ∀ q ∈ leaves, q.shape ≠ .snapshot) : p.shape ≠ .snapshot := by
  obtain ⟨q, hq⟩ := List.exists_mem_of_ne_nil leaves h.leaves_ne_nil
  exact fun hlocal => hleaves q hq ((h.shape_eq_iff (by decide)).mp hlocal q hq)

end Predicate

end ScopeAlgebra
