/-!
# Diagnostics

Diagnostics are texts in order of their first appearance. Merging groups of them keeps the first of
equal texts.
-/

namespace ScopeAlgebra

/-- Diagnostic texts, in order. -/
abbrev Diagnostics := List String

/-- The diagnostics of all groups, each text once. -/
def mergeDiagnostics (groups : List Diagnostics) : Diagnostics := groups.flatten.eraseDups

end ScopeAlgebra
