import ScopeAlgebra.Program.Machine
import ScopeAlgebra.Settings

/-!
# The engine

The engine compiles requests into descriptors and resolves descriptors into predicates. Each call
takes a fresh snapshot of the catalog, so a stored descriptor is always resolved against the
workspace as it is.
-/

namespace ScopeAlgebra

/-- A workspace, the providers that extend its catalog, and the defaults. -/
structure Engine where
  workspace : Workspace := {}
  providers : List Provider := []
  settings : Settings := {}

/-- What the check of a pattern's text says. -/
structure PatternVerdict where
  canonical? : Option String
  diagnostics : Diagnostics := []
  deriving DecidableEq, Repr

/-- Whether the text is a pattern. -/
def PatternVerdict.isValid (v : PatternVerdict) : Bool := v.canonical?.isSome

/-- Checks the text of a pattern. -/
def PatternVerdict.ofText (text : String) : PatternVerdict :=
  match Pattern.canonical text with
  | .ok canonical => ⟨some canonical, []⟩
  | .error e => ⟨none, [e.message]⟩

namespace Engine

/-- The catalog as it is now. -/
def catalog (e : Engine) : Except EngineError Snapshot :=
  (Snapshot.build e.workspace e.providers e.settings.collisions e.settings.familyOrder).mapError
    .providerInterrupted

/-- The items of the catalog that may be used. -/
def list (e : Engine) (allowInteractive? : Option Bool) : Except EngineError Listing := do
  let catalog ← e.catalog
  let allowed := allowInteractive?.getD e.settings.allowInteractive
  return ⟨catalog.items allowed, catalog.diagnostics⟩

/-- The policy for a request: given at the call, in the request, or in the settings. -/
def policyFor (e : Engine) (r : Request) (strict? : Option Bool) : Policy :=
  Policy.effective e.settings.policy (r.strict?.map Policy.ofStrict) (strict?.map Policy.ofStrict)

/-- What evaluating a request depends on. -/
def contextFor (e : Engine) (r : Request) (strict? : Option Bool) (catalog : Snapshot) :
    Program.Context where
  catalog
  workspace := e.workspace
  allowInteractive := r.allowInteractive?.getD e.settings.allowInteractive
  policy := e.policyFor r strict?
  failureMode := r.failureMode?.getD e.settings.failureMode

/-- Evaluates a request as it is, its atoms not normalized. -/
def resolveRequest (e : Engine) (r : Request) (strict? : Option Bool) :
    Except EngineError Resolved := do
  let catalog ← e.catalog
  Program.evaluate (e.contextFor r strict? catalog) r.tokens r.atoms

/-- Checks, normalizes and evaluates a request against a snapshot. -/
def compileWith (cx : Program.Context) (r : Request) : Except EngineError Descriptor := do
  -- A malformed program is reported before anything is looked up.
  checkDistinct r.atoms
  Program.check (r.atoms.map Atom.id) r.tokens
  let (atoms, notes) ← normalizeAtoms cx.policy cx.catalog cx.workspace cx.allowInteractive r.atoms
  let scope ← Program.evaluate cx r.tokens atoms
  return {
    atoms, tokens := r.tokens, displayName := scope.displayName, shape := scope.shape
    diagnostics := mergeDiagnostics [notes, scope.diagnostics] }

/-- Compiles a request into a descriptor. -/
def compile (e : Engine) (r : Request) (strict? : Option Bool) : Except EngineError Descriptor := do
  let catalog ← e.catalog
  compileWith (e.contextFor r strict? catalog) r

/-- Rejects a descriptor of a version that is not understood. -/
def checkVersion (d : Descriptor) : Except EngineError Unit :=
  if Descriptor.supports d.version then .ok () else .error (.unsupportedVersion d.version)

/-- The request that a stored descriptor stands for. -/
def requestOf (d : Descriptor) (strict? allowInteractive? : Option Bool) : Request :=
  ⟨d.atoms, d.tokens, strict?, allowInteractive?, some .emptyScope⟩

/-- Resolves a stored descriptor. -/
def resolve (e : Engine) (d : Descriptor) (allowInteractive? strict? : Option Bool) :
    Except EngineError Resolved := do
  checkVersion d
  e.resolveRequest (requestOf d strict? allowInteractive?) none

/-- Compiles a stored descriptor again, strictly, and keeps its earlier diagnostics. -/
def recompile (e : Engine) (d : Descriptor) (allowInteractive? : Option Bool) :
    Except EngineError Descriptor := do
  checkVersion d
  let again ← e.compile (requestOf d (some true) allowInteractive?) none
  return { again with diagnostics := mergeDiagnostics [d.diagnostics, again.diagnostics] }

/-- The id of the only atom of a descriptor for a standard scope. -/
def standardAtomId : String := "std"

/-- The request for a standard scope. -/
def standardRequest (scopeId : String) (allowInteractive? : Option Bool) : Request :=
  ⟨[{ id := standardAtomId, kind := .standard, standardId? := some scopeId }],
    [Token.ofAtom standardAtomId], some true, allowInteractive?, some .emptyScope⟩

/-- The descriptor of a standard scope, by its id. -/
def standardDescriptor (e : Engine) (scopeId : String) (allowInteractive? : Option Bool) :
    Except EngineError Descriptor :=
  if Text.isBlankText scopeId then .error .blankStandardId
  else e.compile (standardRequest scopeId allowInteractive?) none

/-- The descriptor of a quick preset. -/
def presetDescriptor (e : Engine) (preset : ScopePreset) (allowInteractive? : Option Bool) :
    Except EngineError Descriptor :=
  e.standardDescriptor (word preset.standard) allowInteractive?

end Engine

end ScopeAlgebra
