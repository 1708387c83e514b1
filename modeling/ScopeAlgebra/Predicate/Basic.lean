import ScopeAlgebra.File
import ScopeAlgebra.Shape
import ScopeAlgebra.Text.Quoted

/-!
# Predicates over files

A predicate accepts or rejects single files. It is a filter, a snapshot of urls, the empty
predicate, a predicate contributed from outside, or built from others by intersection, union and
complement. Its shape and its display name follow from how it is built.
-/

namespace ScopeAlgebra

/-- A predicate contributed from outside: what is known of it is the name of its implementation, its
own name, the shape it claims and the test it runs. -/
structure Foreign where
  implementation : String
  displayName : String
  shape : Shape
  test : File → Bool

/-- How a foreign predicate presents its two parts: as a bare pair, read as a union by the planner
alone, or as a split that says whether the parts are joined by "or" or by "and". -/
inductive SplitForm where
  | pair
  | disjunctive
  | conjunctive
  deriving DecidableEq, Repr

/-- A predicate over files. -/
inductive Predicate where
  /-- A test of each file, which can be enumerated. -/
  | filter (name : String) (test : File → Bool)
  /-- An explicit set of urls. -/
  | snapshot (name : String) (urls : List String)
  /-- The predicate that accepts nothing. -/
  | nothing
  | inter (left right : Predicate)
  | union (left right : Predicate)
  | compl (operand : Predicate)
  /-- A foreign predicate without parts. -/
  | foreign (leaf : Foreign)
  /-- A foreign predicate that presents a global and a local part. -/
  | foreignSplit (leaf : Foreign) (form : SplitForm) (globalPart localPart : Predicate)

namespace Predicate

/-- The name under which a predicate is shown. -/
def displayName : Predicate → String
  | .filter name _ | .snapshot name _ => name
  | .nothing => "Empty scope"
  | .inter left right => "Intersection of " ++ left.displayName ++ " and " ++ right.displayName
  | .union left right => "Union of " ++ left.displayName ++ " and " ++ right.displayName
  | .compl operand => "Not " ++ operand.displayName
  | .foreign leaf | .foreignSplit leaf _ _ _ => leaf.displayName

/-- The shape of a predicate. -/
def shape : Predicate → Shape
  | .filter _ _ | .nothing | .compl _ => .global
  | .snapshot _ _ => .snapshot
  | .inter left right | .union left right => left.shape.combine right.shape
  | .foreign leaf | .foreignSplit leaf _ _ _ => leaf.shape

/-- Whether a predicate accepts a file. -/
def contains : Predicate → File → Bool
  | .filter _ test, f => test f
  | .snapshot _ urls, f => urls.contains f.url
  | .nothing, _ => false
  | .inter left right, f => left.contains f && right.contains f
  | .union left right, f => left.contains f || right.contains f
  | .compl operand, f => !operand.contains f
  | .foreign leaf, f | .foreignSplit leaf _ _ _, f => leaf.test f

/-- Whether a predicate is built by this library and not contributed from outside. -/
def isNative : Predicate → Bool
  | .foreign _ | .foreignSplit _ _ _ _ => false
  | _ => true

/-- The stable name of a predicate's implementation, part of the reference ids of contributed
scopes. A foreign predicate brings its own. -/
def implementation : Predicate → String
  | .filter _ _ => "scopekit.scope.predicates.FilterScope"
  | .snapshot _ _ => "scopekit.scope.predicates.LocalScope"
  | .nothing => "scopekit.scope.predicates.EmptyScope"
  | .inter _ _ => "scopekit.scope.predicates.IntersectionScope"
  | .union _ _ => "scopekit.scope.predicates.UnionScope"
  | .compl _ => "scopekit.scope.predicates.ComplementScope"
  | .foreign leaf | .foreignSplit leaf _ _ _ => leaf.implementation

/-- The filter that accepts the files with the given urls. -/
def ofUrls (name : String) (urls : List String) : Predicate :=
  .filter name fun f => urls.contains f.url

/-- The complement of a predicate, which has to be global; otherwise its shape is returned. -/
def complement (operand : Predicate) : Except Shape Predicate :=
  if operand.shape = .global then .ok (.compl operand) else .error operand.shape

/-- A global predicate has a complement. -/
theorem complement_of_global {operand : Predicate} (h : operand.shape = .global) :
    operand.complement = .ok (.compl operand) := if_pos h

/-- The text of the refusal to complement a predicate of the given shape. -/
def complementMessage (shape : Shape) : String :=
  "Complement requires a global operand, got " ++ word shape

/-- The last component of an implementation's name. -/
def className (p : Predicate) : String :=
  String.ofList (p.implementation.toList.reverse.takeWhile (· ≠ '.')).reverse

/-- A one-line description: implementation, quoted name and shape. -/
def summary (p : Predicate) : String :=
  "<" ++ p.className ++ " " ++ Text.quoted p.displayName ++ " " ++ word p.shape ++ ">"

end Predicate

end ScopeAlgebra
