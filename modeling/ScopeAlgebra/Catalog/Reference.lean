import ScopeAlgebra.Atom
import ScopeAlgebra.Digest.Sha256
import ScopeAlgebra.Standard

/-!
# Reference ids

Every scope has a reference id that follows from what it is. Names are written out; patterns, file
sets and the scopes of providers are identified by a digest.
-/

namespace ScopeAlgebra.RefId

open Digest (shortHash)

/-- The id of a standard scope, by its own id. -/
def standard (scopeId : String) : String := "standard:" ++ scopeId

/-- The id of a module's scope. -/
def module (name : String) (flavor : ModuleFlavor) : String :=
  "module:" ++ name ++ ":" ++ word flavor

/-- The id of a named scope. -/
def named (holderId scopeName : String) : String := "named:" ++ holderId ++ ":" ++ scopeName

/-- The id of a scope that a provider contributes. -/
def provider (providerId displayName implementation : String) : String :=
  "provider:" ++ providerId ++ ":" ++
    shortHash (providerId ++ "|" ++ displayName ++ "|" ++ implementation)

/-- The id of a pattern in canonical form. -/
def pattern (canonical : String) : String := "pattern:" ++ shortHash canonical

/-- The id of a directory. -/
def directory (url : String) : String := "directory:" ++ url

/-- The id of a set of files, given by their urls in order. -/
def files (urls : List String) : String := "files:" ++ shortHash ("\n".intercalate urls)

end ScopeAlgebra.RefId
