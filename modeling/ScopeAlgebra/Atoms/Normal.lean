import ScopeAlgebra.Catalog.Snapshot
import ScopeAlgebra.Noted

/-!
# Normal forms of atoms

Normalizing an atom gives it the reference id that follows from what it describes. An atom that is
looked up takes over the metadata of its record; every other one keeps its payload, trimmed, and
gets the id that the payload stands for. Under the lenient policy an atom that does not resolve is
passed on with a diagnostic, a pattern that cannot be read with its trimmed text.
-/

namespace ScopeAlgebra

/-- Inserts a text into a strictly ascending list, unless it is there. -/
def insertSorted (s : String) : List String → List String
  | [] => [s]
  | t :: rest =>
    if s < t then s :: t :: rest else if s = t then t :: rest else t :: insertSorted s rest

/-- Urls without blanks around them, ascending and each once; blank ones are dropped. -/
def canonicalUrls (urls : List String) : List String :=
  (urls.filterMap fun url => Text.present? (some url)).foldr insertSorted []

/-- The first text unless it is missing or empty, then the second. -/
def preferText (first? second? : Option String) : Option String :=
  match first? with
  | some s => if s.isEmpty then second? else some s
  | none => second?

namespace Atom

/-- The trimmed payload of an atom, which must not be blank. -/
def require (a : Atom) (value? : Option String) (payload : Payload) : Except AtomError String :=
  match Text.present? value? with
  | some value => .ok value
  | none => .error (.missing a.kind payload)

/-- An atom with the metadata of the record that it refers to. -/
def enrich (a : Atom) (item : Item) : Atom :=
  { a with
    kind := item.kind
    refId? := some item.refId
    standardId? := preferText item.serializationId? a.standardId?
    moduleName? := preferText item.moduleName? a.moduleName?
    flavor? := item.flavor? <|> a.flavor?
    scopeName? := preferText item.scopeName? a.scopeName?
    holderId? := preferText item.holderId? a.holderId?
    providerId? := preferText item.providerId? a.providerId?
    fileUrls := canonicalUrls a.fileUrls }

/-- The record that a reference id stands for, if it may be used. -/
def lookUp (catalog : Snapshot) (allowInteractive : Bool) (refId : String) :
    Except AtomError Record :=
  match catalog.get? refId with
  | none => .error (.unresolved (.unknownReference refId))
  | some r =>
    if Snapshot.isAllowed allowInteractive r then .ok r
    else .error (.unresolved (.needsInput refId))

/-- The normal form of an atom that is looked up by reference. -/
def normalizeReference (catalog : Snapshot) (allowInteractive : Bool) (a : Atom) :
    Except AtomError Atom := do
  let refId ← a.require a.refId? .refId
  let r ← lookUp catalog allowInteractive refId
  return a.enrich r.item

/-- An atom for the named scope of a holder. -/
def withScope (a : Atom) (holderId name : String) : Atom :=
  { a with
    scopeName? := some name, holderId? := some holderId
    refId? := some (RefId.named holderId name) }

/-- The normal form of an atom for a named scope: without a holder there must be exactly one that
fits. -/
def normalizeNamed (ws : Workspace) (a : Atom) : Except AtomError Atom := do
  let name ← a.require a.scopeName? .scopeName
  match Text.present? a.holderId? with
  | some holderId => return a.withScope holderId name
  | none =>
    match (ws.holdersOf name).map (·.id) with
    | [] => .error (.unresolved (.unknownScope name))
    | [holderId] => return a.withScope holderId name
    | holderIds => .error (.unresolved (.ambiguousScope name holderIds))

/-- An atom for a pattern's text. -/
def withPattern (a : Atom) (text : String) : Atom :=
  { a with pattern? := some text, refId? := some (RefId.pattern text) }

/-- The normal form of an atom for a pattern. -/
def normalizePattern (a : Atom) : Except AtomError Atom := do
  let text ← a.require a.pattern? .pattern
  match Pattern.canonical text with
  | .ok canonical => return a.withPattern canonical
  | .error e => .error (.unresolved (.badPattern e))

/-- The normal form of an atom for a module. -/
def normalizeModule (a : Atom) : Except AtomError Atom := do
  let name ← a.require a.moduleName? .moduleName
  match a.flavor? with
  | none => .error (.missing a.kind .flavor)
  | some flavor =>
    return { a with moduleName? := some name, refId? := some (RefId.module name flavor) }

/-- The normal form of an atom for a set of files. -/
def normalizeFiles (a : Atom) : Except AtomError Atom :=
  match canonicalUrls a.fileUrls with
  | [] => .error (.missing a.kind .fileUrls)
  | urls => .ok { a with fileUrls := urls, refId? := some (RefId.files urls) }

/-- The normal form of an atom that is described by its payload. -/
def normalizePayload (ws : Workspace) (a : Atom) : Except AtomError Atom :=
  match a.kind with
  | .standard => do
    let scopeId ← a.require a.standardId? .standardId
    return { a with standardId? := some scopeId, refId? := some (RefId.standard scopeId) }
  | .module => a.normalizeModule
  | .namedPattern => a.normalizeNamed ws
  | .adhocPattern => a.normalizePattern
  | .directory => do
    let url ← a.require a.directoryUrl? .directoryUrl
    return { a with directoryUrl? := some url, refId? := some (RefId.directory url) }
  | .fileSet => a.normalizeFiles
  | .catalogRef | .provider => .error (.missing a.kind .refId)

/-- The normal form of an atom. -/
def normalize (catalog : Snapshot) (ws : Workspace) (allowInteractive : Bool) (a : Atom) :
    Except AtomError Atom :=
  if catalog.resolvesByReference a then a.normalizeReference catalog allowInteractive
  else a.normalizePayload ws

/-- What stands for an atom that does not resolve. -/
def fallback (a : Atom) : Unresolved → Atom
  | .badPattern _ =>
    match Text.present? a.pattern? with
    | some text => a.withPattern text
    | none => a
  | _ => a

/-- The normal form of an atom under a policy, with what was noted. -/
def normalizeUnder (policy : Policy) (catalog : Snapshot) (ws : Workspace) (allowInteractive : Bool)
    (a : Atom) : Noted Atom :=
  match a.normalize catalog ws allowInteractive with
  | .ok normal => .plain normal
  | .error (.unresolved cause) =>
    if policy = .strict then .error (.unresolved a.id cause)
    else .withNote (a.fallback cause) cause.message
  | .error e => .error (.ofAtom a.id e)

end Atom

/-- Rejects atoms of which two share an id. -/
def checkDistinct (atoms : List Atom) : Except EngineError Unit :=
  match firstRepeat? [] (atoms.map Atom.id) with
  | some atomId => .error (.duplicateAtom atomId)
  | none => .ok ()

/-- The normal forms of atoms one after the other, with what was noted. -/
def normalizeEach (policy : Policy) (catalog : Snapshot) (ws : Workspace)
    (allowInteractive : Bool) : List Atom → Noted (List Atom)
  | [] => .plain []
  | a :: rest =>
    (a.normalizeUnder policy catalog ws allowInteractive).andThen fun normal =>
      (normalizeEach policy catalog ws allowInteractive rest).onValue (normal :: ·)

/-- The normal forms of atoms with distinct ids, with what was noted. -/
def normalizeAtoms (policy : Policy) (catalog : Snapshot) (ws : Workspace) (allowInteractive : Bool)
    (atoms : List Atom) : Noted (List Atom) :=
  match checkDistinct atoms with
  | .error e => .error e
  | .ok () => normalizeEach policy catalog ws allowInteractive atoms

end ScopeAlgebra
