import ScopeAlgebra.Pattern.Parser
import ScopeAlgebra.Program.Basic
import ScopeAlgebra.Workspace.Basic

/-!
# Errors of the engine

Each error is a cause with the data it is about; `message` gives its wording. The family of an error
tells malformed programs from atoms that cannot be resolved and from operations that are refused.
-/

namespace ScopeAlgebra

/-- What an atom has to carry for its kind. -/
inductive Payload where
  | refId
  | standardId
  | moduleName
  | flavor
  | moduleNameAndFlavor
  | scopeName
  | pattern
  | directoryUrl
  | fileUrls
  deriving DecidableEq, Repr

/-- The wording of a payload. -/
def Payload.description : Payload → String
  | .refId => "scope_ref_id"
  | .standardId => "standard_scope_id"
  | .moduleName => "module_name"
  | .flavor => "module_flavor"
  | .moduleNameAndFlavor => "module_name and module_flavor"
  | .scopeName => "named_scope_name"
  | .pattern => "pattern_text"
  | .directoryUrl => "directory_url"
  | .fileUrls => "non-empty file_urls"

/-- Why a description does not resolve in a workspace. -/
inductive Unresolved where
  | unknownReference (refId : String)
  | needsInput (refId : String)
  | unknownStandard (scopeId : String)
  | unknownModule (name : String)
  | unknownScope (name : String)
  | ambiguousScope (name : String) (holders : List String)
  | scopeWithoutPattern (name : String)
  | badPattern (e : PatternError)
  | notInWorkspace (e : WorkspaceError)
  deriving DecidableEq, Repr

namespace Unresolved

/-- The wording of a cause. -/
def message : Unresolved → String
  | .unknownReference refId => "Unknown scope_ref_id '" ++ refId ++ "'."
  | .needsInput refId =>
    "Scope '" ++ refId ++ "' requires user input and interactive scopes are not allowed."
  | .unknownStandard scopeId =>
    "Standard scope '" ++ scopeId ++ "' cannot be resolved in this context."
  | .unknownModule name => "Module '" ++ name ++ "' not found."
  | .unknownScope name => "Named scope '" ++ name ++ "' not found."
  | .ambiguousScope name holders =>
    "Named scope '" ++ name ++ "' is ambiguous across holders " ++ ", ".intercalate holders ++
      "; specify named_scope_holder_id."
  | .scopeWithoutPattern name =>
    "Named scope '" ++ name ++ "' has no pattern and cannot be resolved."
  | .badPattern e => e.message
  | .notInWorkspace e => e.message

/-- The holders between which a description leaves the choice. -/
def candidates : Unresolved → List String
  | .ambiguousScope _ holders => holders
  | _ => []

end Unresolved

/-- Why an atom gives no predicate: it lacks what its kind calls for, or it does not resolve. -/
inductive AtomError where
  | missing (kind : AtomKind) (payload : Payload)
  | unresolved (cause : Unresolved)
  deriving DecidableEq, Repr

/-- Everything that can go wrong in the engine. -/
inductive EngineError where
  | duplicateAtom (atomId : String)
  | emptyProgram
  | pushWithoutAtom (index : Nat)
  | unknownAtom (index : Nat) (atomId : String)
  | tooFewOperands (index : Nat) (op : ProgramOp) (depth : Nat)
  | notOneResult (depth : Nat)
  | missingPayload (atomId : String) (kind : AtomKind) (payload : Payload)
  | unresolved (atomId : String) (cause : Unresolved)
  | emptyExpression
  | notGlobal (index : Nat) (shape : Shape)
  | noComplement (shape : Shape)
  | unsupportedVersion (version : Int)
  | isDirectory (url : String)
  | noSuchFile (url : String)
  | blankStandardId
  | badLimit
  | providerInterrupted (message : String)
  deriving DecidableEq, Repr

/-- The families of errors. -/
inductive ErrorFamily where
  | structural
  | invalidAtom
  | resolution
  | negation
  | version
  | argument
  | provider
  deriving DecidableEq, Repr

namespace EngineError

/-- The error of one atom. -/
def ofAtom (atomId : String) : AtomError → EngineError
  | .missing kind payload => .missingPayload atomId kind payload
  | .unresolved cause => .unresolved atomId cause

/-- The family of an error. -/
def family : EngineError → ErrorFamily
  | .duplicateAtom _ | .emptyProgram | .pushWithoutAtom _ | .unknownAtom _ _ | .tooFewOperands _ _ _
  | .notOneResult _ => .structural
  | .missingPayload _ _ _ => .invalidAtom
  | .unresolved _ _ | .emptyExpression | .isDirectory _ | .noSuchFile _ => .resolution
  | .notGlobal _ _ => .negation
  | .unsupportedVersion _ => .version
  | .noComplement _ | .blankStandardId | .badLimit => .argument
  | .providerInterrupted _ => .provider

/-- How a token is named in messages. -/
def tokenName (index : Nat) : String := "Token[" ++ toString index ++ "]"

/-- The wording of an error. -/
def message : EngineError → String
  | .duplicateAtom atomId => "Duplicate atom_id '" ++ atomId ++ "' in request."
  | .emptyProgram => "Scope program tokens must not be empty."
  | .pushWithoutAtom index => tokenName index ++ " push_atom requires atom_id."
  | .unknownAtom index atomId =>
    tokenName index ++ " references unknown atom_id '" ++ atomId ++ "'."
  | .tooFewOperands index op depth =>
    tokenName index ++ " " ++ op.capitals ++ " requires " ++ toString op.arity ++
      " stack items, but stack size is " ++ toString depth ++ "."
  | .notOneResult depth =>
    "Scope program is invalid: final stack size must be 1, but was " ++ toString depth ++ "."
  | .missingPayload atomId kind payload =>
    "Atom '" ++ atomId ++ "' kind " ++ word kind ++ " requires " ++ payload.description ++ "."
  | .unresolved _ cause => cause.message
  | .emptyExpression =>
    "Scope program resolved to an empty expression after fallback processing. " ++
      "Provide at least one resolvable atom or use the empty_scope failure mode."
  | .notGlobal index shape =>
    tokenName index ++ " NOT requires a GLOBAL operand, but operand shape is " ++
      shape.capitals ++ "."
  | .noComplement shape => Predicate.complementMessage shape
  | .unsupportedVersion version =>
    "Unsupported scope descriptor version " ++ toString version ++ "."
  | .isDirectory url => "URL '" ++ url ++ "' points to a directory, not a file."
  | .noSuchFile url => "File URL '" ++ url ++ "' not found."
  | .blankStandardId => "standard_scope_id must not be blank."
  | .badLimit => "max_results must be >= 1."
  | .providerInterrupted message => message

/-- The token that an error blames. -/
def tokenIndex? : EngineError → Option Nat
  | .pushWithoutAtom index | .unknownAtom index _ | .tooFewOperands index _ _
  | .notGlobal index _ => some index
  | _ => none

/-- The atom that an error blames. -/
def atomId? : EngineError → Option String
  | .missingPayload atomId _ _ | .unresolved atomId _ => some atomId
  | _ => none

end EngineError

end ScopeAlgebra
