import ScopeAlgebra.Catalog.Families

/-!
# Catalog snapshots

A snapshot holds every scope that a workspace and its providers offer at one moment. It is built
anew for every call. A provider whose collection breaks off while it is read makes the whole
snapshot fail.
-/

namespace ScopeAlgebra

/-- The records of the catalog, each reference id once, and what went wrong on collecting them. -/
structure Snapshot where
  records : List Record := []
  diagnostics : Diagnostics := []

namespace Snapshot

/-- The snapshot of a workspace and its providers under the given settings. -/
def build (ws : Workspace) (providers : List Provider) (policy : CollisionPolicy)
    (order : List CatalogFamily) : Except String Snapshot := do
  let all ← Catalog.ofFamilies ws providers (Catalog.completeOrder order)
  return ⟨Registry.ofList policy all.records, all.diagnostics.eraseDups⟩

/-- The record with a reference id. -/
def get? (catalog : Snapshot) (refId : String) : Option Record :=
  Registry.get? catalog.records refId

/-- Whether a record may be used: it needs no input, or input is allowed. -/
def isAllowed (allowInteractive : Bool) (r : Record) : Bool :=
  !r.item.requiresInput || allowInteractive

/-- The record with a reference id, if it may be used. -/
def lookup? (catalog : Snapshot) (refId : String) (allowInteractive : Bool) : Option Record :=
  (catalog.get? refId).filter (isAllowed allowInteractive)

/-- The items that may be used. -/
def items (catalog : Snapshot) (allowInteractive : Bool) : List Item :=
  (catalog.records.filter (isAllowed allowInteractive)).map (·.item)

end Snapshot

namespace Atom

/-- Whether an atom carries the payload that its kind calls for. -/
def hasPayload (a : Atom) : Bool :=
  match a.kind with
  | .standard => (Text.present? a.standardId?).isSome
  | .module => (Text.present? a.moduleName?).isSome && a.flavor?.isSome
  | .namedPattern => (Text.present? a.scopeName?).isSome
  | _ => false

end Atom

/-- Whether an atom is looked up by its reference and not by its payload: always for references and
provider atoms, never for ad-hoc kinds, and for the rest when the catalog knows the reference or
when there is no payload. -/
def Snapshot.resolvesByReference (catalog : Snapshot) (a : Atom) : Bool :=
  if a.kind.isReference then true
  else if a.kind.isAdhoc then false
  else
    match Text.present? a.refId? with
    | none => false
    | some refId => (catalog.get? refId).isSome || !a.hasPayload

end ScopeAlgebra
