import ScopeAlgebra.Diagnostics
import ScopeAlgebra.Text.Blank
import ScopeAlgebra.Workspace.Basic

/-!
# Providers

A provider contributes scopes through up to two methods. What a method answers is outside our
control: it may fail, give nothing, give something that is no collection, or mix predicates with
other values; each of these leaves a note. A collection may also break off while it is read, which
no note can mend.
-/

namespace ScopeAlgebra

/-- One value that a provider offers. Offers with the same identity are the same object. -/
inductive Offer where
  | scope (identity : Nat) (predicate : Predicate)
  | other

/-- What a method answers. -/
inductive Reply where
  | failed (message : String)
  | nothing
  | notCollection (typeName : String)
  | offers (values : List Offer)
  /-- A collection that breaks off with an error while it is read. -/
  | interrupted (message : String)

/-- The methods of a provider, in the order in which they are called. -/
inductive ProviderMethod where
  | generalScopes
  | listScopes
  deriving DecidableEq, Repr

/-- The name of a method. -/
def ProviderMethod.name : ProviderMethod → String
  | .generalScopes => "general_scopes"
  | .listScopes => "list_scopes"

/-- A provider: the name of its implementation, its declared id, if that is a text, and its methods,
as far as it has them. -/
structure Provider where
  implementation : String
  declaredId? : Option String := none
  generalScopes? : Option (Workspace → Reply) := none
  listScopes? : Option (Workspace → Reply) := none

/-- What went wrong on calling a provider. -/
inductive ProviderNote where
  | failed (method : ProviderMethod) (message : String)
  | notCollection (method : ProviderMethod) (typeName : String)
  | ignored (method : ProviderMethod)
  | noMethod
  deriving DecidableEq, Repr

/-- The text of a note on the provider with the given id. -/
def ProviderNote.message (providerId : String) : ProviderNote → String
  | .failed method message =>
    "Provider '" ++ providerId ++ "' method '" ++ method.name ++ "' invocation failed: " ++
      message ++ "."
  | .notCollection method typeName =>
    "Provider '" ++ providerId ++ "' method '" ++ method.name ++ "' returned non-iterable type '" ++
      typeName ++ "'."
  | .ignored method =>
    "Provider '" ++ providerId ++ "' method '" ++ method.name ++
      "' returned non-predicate elements; ignored invalid entries."
  | .noMethod =>
    "Provider '" ++ providerId ++
      "' has no compatible scope method. Expected general_scopes(workspace) or list_scopes(workspace)."

namespace Provider

/-- The id of a provider: the declared one when it is not blank, else the name of its
implementation. -/
def id (p : Provider) : String := (Text.present? p.declaredId?).getD p.implementation

/-- The methods that a provider has, in order. -/
def methods (p : Provider) : List (ProviderMethod × (Workspace → Reply)) :=
  (p.generalScopes?.map fun call => (.generalScopes, call)).toList ++
    (p.listScopes?.map fun call => (.listScopes, call)).toList

/-- The predicates among offers, with their identities. -/
def scopesOf (values : List Offer) : List (Nat × Predicate) :=
  values.filterMap fun
    | .scope identity predicate => some (identity, predicate)
    | .other => none

/-- Whether an offer is not a predicate. -/
def isOther : Offer → Bool
  | .scope _ _ => false
  | .other => true

/-- What a provider's methods yield: scopes with their identities, and notes. -/
structure Yield where
  scopes : List (Nat × Predicate) := []
  notes : List ProviderNote := []

/-- What one reply yields; an interrupted collection gives its error. -/
def yieldOf (method : ProviderMethod) : Reply → Except String Yield
  | .failed message => .ok ⟨[], [.failed method message]⟩
  | .nothing => .ok ⟨[], []⟩
  | .notCollection typeName => .ok ⟨[], [.notCollection method typeName]⟩
  | .offers values => .ok ⟨scopesOf values, if values.any isOther then [.ignored method] else []⟩
  | .interrupted message => .error message

/-- What the methods yield one after the other. -/
def yieldAll (ws : Workspace) : List (ProviderMethod × (Workspace → Reply)) → Except String Yield
  | [] => .ok {}
  | (method, call) :: rest => do
    let first ← yieldOf method (call ws)
    let more ← yieldAll ws rest
    return ⟨first.scopes ++ more.scopes, first.notes ++ more.notes⟩

/-- The offers of which the identity did not occur before. -/
def distinctScopes : List Nat → List (Nat × Predicate) → List Predicate
  | _, [] => []
  | seen, (identity, predicate) :: rest =>
    if identity ∈ seen then distinctScopes seen rest
    else predicate :: distinctScopes (identity :: seen) rest

/-- The scopes that a provider contributes, each object once, and its diagnostics. -/
def collect (p : Provider) (ws : Workspace) : Except String (List Predicate × Diagnostics) := do
  let found ← yieldAll ws p.methods
  -- Notes and scopes keep the order of the methods; only scopes are told apart.
  let notes := if p.methods.isEmpty then [.noMethod] else found.notes
  return (distinctScopes [] found.scopes, notes.map (ProviderNote.message p.id))

end Provider

end ScopeAlgebra
