import ScopeAlgebra.Engine.Basic

/-!
# Choosing scopes by intent

An intent narrows the catalog to the items that serve it. Items that need no input come first, then
stable ones, then by name in lower case; equal items keep the order of the catalog. The first one is
recommended.
-/

namespace ScopeAlgebra

/-- What a scope is wanted for. -/
inductive Intent where
  | projectOnly
  | withLibraries
  | changedFiles
  | openFiles
  | currentFile
  deriving DecidableEq, Repr, Inhabited

instance : Vocabulary Intent where
  title := "CatalogIntent"
  all := [.projectOnly, .withLibraries, .changedFiles, .openFiles, .currentFile]
  word
    | .projectOnly => "project_only"
    | .withLibraries => "with_libraries"
    | .changedFiles => "changed_files"
    | .openFiles => "open_files"
    | .currentFile => "current_file"
  find_word := by intro a; cases a <;> rfl

namespace Intent

/-- The standard scopes that serve an intent. -/
def standards : Intent → List StandardScope
  | .projectOnly => [.projectFiles, .productionFiles, .testFiles]
  | .withLibraries => [.allPlaces, .projectAndLibraries]
  | .changedFiles => [.recentlyChanged]
  | .openFiles => [.openFiles]
  | .currentFile => [.currentFile]

/-- Whether an item serves an intent through its module. -/
def matchesModule (intent : Intent) (item : Item) : Bool :=
  match intent with
  | .projectOnly => item.kind = .module
  | .withLibraries => item.flavor?.any (·.takesLibraries)
  | _ => false

/-- Whether an item serves an intent. -/
def isServedBy (intent : Intent) (item : Item) : Bool :=
  (item.serializationId?.any fun scopeId => (intent.standards.map word).contains scopeId) ||
    intent.matchesModule item

end Intent

/-- The items that serve an intent, as far as they fit the limit. -/
structure IntentListing where
  intent : Intent
  recommended? : Option String
  items : List Item
  diagnostics : Diagnostics
  deriving DecidableEq, Repr

namespace Item

/-- What an item is ranked by. -/
def rank (item : Item) : Nat × Nat × String :=
  (item.requiresInput.toNat, item.unstable.toNat, Text.lower item.displayName)

/-- Whether one rank comes no later than another. -/
def rankLe (a b : Nat × Nat × String) : Bool :=
  a.1 < b.1 || (a.1 = b.1 && (a.2.1 < b.2.1 || (a.2.1 = b.2.1 && decide (a.2.2 ≤ b.2.2))))

/-- Items by rank; equal ranks keep their order. -/
def ranked (items : List Item) : List Item :=
  let keyed := items.map fun item => (item.rank, item)
  (keyed.mergeSort fun a b => rankLe a.1 b.1).map (·.2)

end Item

namespace Intent

/-- The text of the note that no item serves an intent. -/
def nothingFoundMessage (intent : Intent) : String :=
  "No catalog items matched intent=" ++ word intent ++
    ". Consider include_interactive=true or a different intent."

/-- The text of the note that a listing was cut. -/
def cutMessage (limit : Int) : String :=
  "Matched catalog items exceed max_results=" ++ toString limit ++ "; result was truncated."

/-- The listing for an intent from everything that may be used, at most `limit` items of it. -/
def listingOf (intent : Intent) (limit : Int) (available : Listing) : IntentListing :=
  let candidates := Item.ranked (available.items.filter intent.isServedBy)
  let selected := candidates.take limit.toNat
  let none? := if selected.isEmpty then [intent.nothingFoundMessage] else []
  let cut? := if (candidates.length : Int) > limit then [cutMessage limit] else []
  { intent, recommended? := selected.head?.map (·.refId), items := selected
    diagnostics := mergeDiagnostics [available.diagnostics ++ none? ++ cut?] }

end Intent

/-- The items that serve an intent, at most `limit` of them, which must be at least one. -/
def Engine.findByIntent (e : Engine) (intent : Intent) (limit : Int)
    (allowInteractive? : Option Bool) : Except EngineError IntentListing :=
  if limit < 1 then .error .badLimit
  else (e.list allowInteractive?).map (intent.listingOf limit)

end ScopeAlgebra
