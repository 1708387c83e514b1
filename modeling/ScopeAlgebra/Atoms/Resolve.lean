import ScopeAlgebra.Atoms.Normal

/-!
# Resolving atoms

An atom resolves to a predicate: that of the catalog record it refers to, or one made from its
payload in the workspace. Payloads are taken as they are written.
-/

namespace ScopeAlgebra

/-- A text unless it is missing or empty. -/
def nonEmpty? (s? : Option String) : Option String := s?.filter (!·.isEmpty)

namespace Atom

/-- The error of a payload that is not in the workspace. -/
def notFound {α : Type} (cause : Unresolved) : Except AtomError α := .error (.unresolved cause)

/-- The predicate that a reference id stands for. -/
def resolveReference (catalog : Snapshot) (allowInteractive : Bool) (a : Atom) :
    Except AtomError Predicate := do
  let refId ← a.require a.refId? .refId
  return (← lookUp catalog allowInteractive refId).predicate

/-- The predicate of a standard scope that the catalog lists. -/
def resolveStandard (catalog : Snapshot) (allowInteractive : Bool) (a : Atom) :
    Except AtomError Predicate :=
  match nonEmpty? a.standardId? with
  | none => .error (.missing a.kind .standardId)
  | some scopeId =>
    -- An unknown id is reported by the scope's own id, not by the reference made from it.
    let refId := RefId.standard scopeId
    if (catalog.get? refId).isNone then notFound (.unknownStandard scopeId)
    else (lookUp catalog allowInteractive refId).map (·.predicate)

/-- The predicate of a module's scope. -/
def resolveModule (ws : Workspace) (a : Atom) : Except AtomError Predicate :=
  match nonEmpty? a.moduleName?, a.flavor? with
  | some name, some flavor =>
    match ws.findModule? name with
    | none => notFound (.unknownModule name)
    | some m => .ok (ws.moduleScope m flavor)
  | _, _ => .error (.missing a.kind .moduleNameAndFlavor)

/-- The named scope that an atom describes: that of its holder, or of the only holder that has
it. -/
def findScope (ws : Workspace) (holderId? : Option String) (name : String) :
    Except AtomError (Option NamedScope) :=
  match nonEmpty? holderId? with
  | some holderId =>
    .ok ((ws.holders.find? fun h => decide (h.id = holderId)).bind fun h => h.get? name)
  | none =>
    match ws.holdersOf name with
    | [] => .ok none
    | [h] => .ok (h.get? name)
    | holders => notFound (.ambiguousScope name (holders.map (·.id)))

/-- The predicate of a pattern's text. -/
def patternPredicate (text : String) (name? : Option String) : Except AtomError Predicate :=
  (Workspace.patternScope text name?).mapError fun e => .unresolved (.badPattern e)

/-- The predicate of a named scope. -/
def resolveNamed (ws : Workspace) (a : Atom) : Except AtomError Predicate :=
  match nonEmpty? a.scopeName? with
  | none => .error (.missing a.kind .scopeName)
  | some name => do
    match ← findScope ws a.holderId? name with
    | none => notFound (.unknownScope name)
    | some scope =>
      match scope.pattern? with
      | none => notFound (.scopeWithoutPattern name)
      | some text => patternPredicate text (some scope.displayName)

/-- The predicate that an atom's payload describes. -/
def resolvePayload (catalog : Snapshot) (ws : Workspace) (allowInteractive : Bool) (a : Atom) :
    Except AtomError Predicate :=
  match a.kind with
  | .standard => a.resolveStandard catalog allowInteractive
  | .module => a.resolveModule ws
  | .namedPattern => a.resolveNamed ws
  | .adhocPattern =>
    match nonEmpty? a.pattern? with
    | none => .error (.missing a.kind .pattern)
    | some text => patternPredicate text none
  | .directory =>
    match nonEmpty? a.directoryUrl? with
    | none => .error (.missing a.kind .directoryUrl)
    | some url =>
      (ws.directoryScope url a.recursive).mapError fun e => .unresolved (.notInWorkspace e)
  | .fileSet =>
    if a.fileUrls.isEmpty then .error (.missing a.kind .fileUrls)
    else (ws.filesScope a.fileUrls).mapError fun e => .unresolved (.notInWorkspace e)
  | .catalogRef | .provider => .error (.missing a.kind .refId)

/-- The predicate that an atom stands for. -/
def resolve (catalog : Snapshot) (ws : Workspace) (allowInteractive : Bool) (a : Atom) :
    Except AtomError Predicate :=
  if catalog.resolvesByReference a then a.resolveReference catalog allowInteractive
  else a.resolvePayload catalog ws allowInteractive

end Atom

end ScopeAlgebra
