import ScopeAlgebra.Catalog.Item
import ScopeAlgebra.Predicate.Basic
import ScopeAlgebra.Settings

/-!
# Registering records

Records are registered one after the other under their reference ids. When an id is taken, the first
record stays, or the last one moves to the end, as the collision policy says.
-/

namespace ScopeAlgebra

/-- A scope of the catalog: its item and its predicate. -/
structure Record where
  item : Item
  predicate : Predicate

/-- The reference id of a record. -/
def Record.refId (r : Record) : String := r.item.refId

namespace Registry

/-- The record with a reference id. -/
def get? (records : List Record) (refId : String) : Option Record :=
  records.find? fun r => decide (r.refId = refId)

/-- Whether a reference id is taken. -/
def contains (records : List Record) (refId : String) : Bool :=
  records.any fun r => decide (r.refId = refId)

/-- Registers one record. -/
def register (policy : CollisionPolicy) (records : List Record) (r : Record) : List Record :=
  match policy with
  | .firstWins => if contains records r.refId then records else records ++ [r]
  -- The new record stands where it was registered, not where the old one stood.
  | .lastWins => records.filter (fun other => decide (other.refId ≠ r.refId)) ++ [r]

/-- Registers records one after the other. -/
def ofList (policy : CollisionPolicy) (records : List Record) : List Record :=
  records.foldl (register policy) []

end Registry

end ScopeAlgebra
