import ScopeAlgebra.Workspace.Basic

/-!
# Module scopes

The scope of a module holds its own files; with dependencies also those of every module reached by
following declared dependencies, and with libraries those of the libraries that these modules
declare. The search for reachable modules visits each name once: every step either takes a name off
the list of names to visit or visits a module of the workspace that was not visited before.
-/

namespace ScopeAlgebra.Workspace

/-- The modules of the workspace that have not been seen. -/
def unseen (ws : Workspace) (seen : List String) : List Module :=
  ws.modules.filter fun m => decide (m.name ∉ seen)

/-- Seeing one more name leaves no more modules unseen. -/
theorem length_unseen_cons_le (ws : Workspace) (name : String) (seen : List String) :
    (ws.unseen (name :: seen)).length ≤ (ws.unseen seen).length := by
  have : ws.unseen (name :: seen) = (ws.unseen seen).filter fun m => decide (m.name ≠ name) := by
    simp only [unseen, List.filter_filter]
    apply List.filter_congr
    intro m _
    simp [List.mem_cons, not_or, Bool.decide_and]
  rw [this]
  exact List.length_filter_le _ _

/-- Seeing the name of an unseen module leaves fewer modules unseen. -/
theorem length_unseen_cons_lt {ws : Workspace} {name : String} {seen : List String} {m : Module}
    (hm : ws.findModule? name = some m) (hname : name ∉ seen) :
    (ws.unseen (name :: seen)).length < (ws.unseen seen).length := by
  have hmem : m ∈ ws.modules := List.mem_of_find?_eq_some hm
  have heq : m.name = name := by simpa using List.find?_some hm
  have : ws.unseen (name :: seen) = (ws.unseen seen).filter fun m => decide (m.name ≠ name) := by
    simp only [unseen, List.filter_filter]
    apply List.filter_congr
    intro m _
    simp [List.mem_cons, not_or, Bool.decide_and]
  rw [this]
  apply List.length_filter_lt_length_iff_exists.2
  exact ⟨m, List.mem_filter.2 ⟨hmem, by simp [heq, hname]⟩, by simp [heq]⟩

/-- Visits the pending names and whatever they lead to, and returns all names seen. -/
def visit (ws : Workspace) (seen : List String) : List String → List String
  | [] => seen
  | name :: pending =>
    if _hname : name ∈ seen then visit ws seen pending
    else
      match _hm : ws.findModule? name with
      -- A name that no module declares counts as seen and leads nowhere.
      | none => visit ws (name :: seen) pending
      | some m => visit ws (name :: seen) (m.dependencies ++ pending)
termination_by pending => ((ws.unseen seen).length, pending.length)
decreasing_by
  · exact Prod.Lex.right _ (by simp)
  · rcases Nat.lt_or_eq_of_le (length_unseen_cons_le ws name seen) with h | h
    · exact Prod.Lex.left _ _ h
    · rw [h]; exact Prod.Lex.right _ (by simp)
  · exact Prod.Lex.left _ _ (length_unseen_cons_lt _hm _hname)

/-- The names of a module and of all that it depends on, directly or through others. -/
def dependencyClosure (ws : Workspace) (m : Module) : List String :=
  ws.visit [m.name] m.dependencies

/-- The names of the modules whose files a flavor takes in. -/
def scopeModules (ws : Workspace) (m : Module) (flavor : ModuleFlavor) : List String :=
  if flavor.takesDependencies then ws.dependencyClosure m else [m.name]

/-- The libraries whose files a flavor takes in. -/
def scopeLibraries (ws : Workspace) (m : Module) (flavor : ModuleFlavor) : List String :=
  if flavor.takesLibraries then
    (ws.scopeModules m flavor).flatMap fun name =>
      match ws.findModule? name with
      | some m => m.libraries
      | none => []
  else []

/-- Whether a file with the given root belongs to one of the modules or libraries. -/
def isMember (moduleNames libraries : List String) (f : File) : Bool :=
  if f.root = .library then
    match f.library? with
    | some library => libraries.contains library
    | none => false
  else
    f.root.isProject &&
      match f.module? with
      | some module => moduleNames.contains module
      | none => false

/-- The name under which a module's scope is shown. -/
def moduleScopeName (m : Module) (flavor : ModuleFlavor) : String :=
  m.name ++ " (" ++ word flavor ++ ")"

/-- The scope of a module in a flavor. -/
def moduleScope (ws : Workspace) (m : Module) (flavor : ModuleFlavor) : Predicate :=
  let names := ws.scopeModules m flavor
  let libraries := ws.scopeLibraries m flavor
  .filter (moduleScopeName m flavor) (isMember names libraries)

end ScopeAlgebra.Workspace
