import ScopeAlgebra.Proofs.Atoms.Resolve
import ScopeAlgebra.Proofs.Catalog.Registry

/-!
# Predicates that need input

A record that needs input may be used only where that is allowed. `Snapshot.redacted` takes the
predicates of such records away, and where input is not allowed nobody can tell: the same items are
listed, and every atom has the same normal form and resolves to the same predicate or for the same
reason not at all.
-/

namespace ScopeAlgebra

/-- A record without its predicate if that needs input. -/
def Record.redacted (r : Record) : Record :=
  if r.item.requiresInput then { r with predicate := .nothing } else r

/-- A snapshot without the predicates that need input. -/
def Snapshot.redacted (catalog : Snapshot) : Snapshot :=
  { catalog with records := catalog.records.map Record.redacted }

namespace Record

/-- The item of a record stays when its predicate is taken away. -/
@[simp] theorem item_redacted (r : Record) : r.redacted.item = r.item := by
  unfold redacted
  split <;> rfl

/-- The reference id of a record stays when its predicate is taken away. -/
@[simp] theorem refId_redacted (r : Record) : r.redacted.refId = r.refId :=
  congrArg Item.refId r.item_redacted

/-- Whether a record may be used does not depend on its predicate. -/
@[simp] theorem isAllowed_redacted (allow : Bool) (r : Record) :
    Snapshot.isAllowed allow r.redacted = Snapshot.isAllowed allow r := by
  rw [Snapshot.isAllowed, item_redacted, Snapshot.isAllowed]

/-- A record that may be used without input stays as it is. -/
theorem redacted_of_isAllowed {r : Record} (h : Snapshot.isAllowed false r = true) :
    r.redacted = r := by
  have hinput : r.item.requiresInput = false := by simpa [Snapshot.isAllowed] using h
  rw [redacted, hinput]
  rfl

end Record

namespace Registry

variable {policy : CollisionPolicy} {records : List Record}

/-- Whether an id is taken does not depend on predicates. -/
theorem contains_redacted (refId : String) :
    contains (records.map Record.redacted) refId = contains records refId := by
  simp [contains, Function.comp_def]

/-- Records are registered without a look at their predicates. -/
theorem register_redacted (r : Record) :
    register policy (records.map Record.redacted) r.redacted =
      (register policy records r).map Record.redacted := by
  cases policy with
  | firstWins =>
    simp only [register, Record.refId_redacted, contains_redacted]
    split
    · rfl
    · rw [List.map_append, List.map_singleton]
  | lastWins =>
    simp only [register, Record.refId_redacted, List.map_append, List.map_singleton,
      List.filter_map, Function.comp_def]

/-- Records can be redacted before or after they are registered. -/
theorem ofList_redacted :
    ofList policy (records.map Record.redacted) = (ofList policy records).map Record.redacted := by
  induction records using List.reverseRecOn with
  | nil => rfl
  | append_singleton given r ih =>
    rw [List.map_append, List.map_singleton, ofList_append_singleton, ih, register_redacted,
      ofList_append_singleton]

end Registry

namespace Snapshot

variable (catalog : Snapshot)

/-- What is found under an id is the same record, with its predicate taken away when it needs
input. -/
theorem get?_redacted (refId : String) :
    catalog.redacted.get? refId = (catalog.get? refId).map Record.redacted := by
  have hsame : (fun r => decide (r.refId = refId)) ∘ Record.redacted = fun r =>
      decide (r.refId = refId) := by
    funext r
    simp
  rw [get?, Registry.get?, redacted, List.find?_map, hsame]
  rfl

/-- The same items are listed. -/
theorem items_redacted (allow : Bool) : catalog.redacted.items allow = catalog.items allow := by
  simp [items, redacted, List.filter_map, Function.comp_def]

/-- Whether an atom is looked up does not depend on predicates. -/
theorem resolvesByReference_redacted (a : Atom) :
    catalog.redacted.resolvesByReference a = catalog.resolvesByReference a := by
  simp [resolvesByReference, get?_redacted]

end Snapshot

namespace Atom

variable {catalog : Snapshot} {ws : Workspace} (a : Atom)

/-- Where input is not allowed, the same records can be looked up. -/
theorem lookUp_redacted (refId : String) :
    lookUp catalog.redacted false refId = lookUp catalog false refId := by
  rw [lookUp, lookUp, Snapshot.get?_redacted]
  cases catalog.get? refId with
  | none => rfl
  | some r =>
    simp only [Option.map_some, Record.isAllowed_redacted]
    -- A record that may be used without input needs none, so it keeps its predicate.
    split
    next hallowed => rw [Record.redacted_of_isAllowed hallowed]
    · rfl

/-- Atoms have the same normal forms. -/
theorem normalize_redacted :
    a.normalize catalog.redacted ws false = a.normalize catalog ws false := by
  simp only [normalize, normalizeReference, Snapshot.resolvesByReference_redacted, lookUp_redacted]

/-- Atoms resolve to the same predicates. -/
theorem resolve_redacted : a.resolve catalog.redacted ws false = a.resolve catalog ws false := by
  have hstandard : a.resolveStandard catalog.redacted false = a.resolveStandard catalog false := by
    simp [resolveStandard, lookUp_redacted, Snapshot.get?_redacted]
  simp only [resolve, resolveReference, resolvePayload, Snapshot.resolvesByReference_redacted,
    lookUp_redacted, hstandard]

end Atom

end ScopeAlgebra
