import ScopeAlgebra.Module
import ScopeAlgebra.Predicate.Basic

/-!
# Workspaces

A workspace holds files with distinct urls, modules with distinct names, named scopes kept by
holders, and the urls that the editor has open, has visited, has changed and shows.
-/

namespace ScopeAlgebra

/-- A scope that a user has named; without a pattern it cannot be used. -/
structure NamedScope where
  name : String
  pattern? : Option String := none
  presentableName? : Option String := none
  deriving DecidableEq, Repr, Inhabited

/-- The name under which a named scope is shown: the presentable one unless it is empty. -/
def NamedScope.displayName (s : NamedScope) : String :=
  match s.presentableName? with
  | some name => if name.isEmpty then s.name else name
  | none => s.name

/-- A keeper of named scopes. -/
structure Holder where
  id : String
  scopes : List NamedScope := []
  deriving DecidableEq, Repr, Inhabited

namespace Holder

/-- The first scope of a holder with the given name. -/
def get? (h : Holder) (name : String) : Option NamedScope :=
  h.scopes.find? fun s => decide (s.name = name)

/-- Replaces the scope at an index, or adds one at the end when there is none. -/
def put (h : Holder) (index : Nat) (scope : NamedScope) : Holder :=
  if index < h.scopes.length then { h with scopes := h.scopes.set index scope }
  else { h with scopes := h.scopes ++ [scope] }

/-- Removes the scope at an index. -/
def erase (h : Holder) (index : Nat) : Holder := { h with scopes := h.scopes.eraseIdx index }

end Holder

/-- The first text that occurs a second time. -/
def firstRepeat? : List String → List String → Option String
  | _, [] => none
  | seen, s :: rest => if s ∈ seen then some s else firstRepeat? (s :: seen) rest

/-- Texts among which nothing is repeated, and nothing of what was seen before, are distinct. -/
theorem nodup_of_firstRepeat? {seen texts : List String} (h : firstRepeat? seen texts = none) :
    texts.Nodup ∧ ∀ s ∈ texts, s ∉ seen := by
  induction texts generalizing seen with
  | nil => simp
  | cons s rest ih =>
    simp only [firstRepeat?] at h
    split at h
    · contradiction
    next hs =>
      obtain ⟨hnodup, hfresh⟩ := ih h
      refine ⟨List.nodup_cons.2 ⟨fun hmem => hfresh s hmem List.mem_cons_self, hnodup⟩, ?_⟩
      intro t ht
      rcases List.mem_cons.1 ht with rfl | ht
      · exact hs
      · exact fun hmem => hfresh t ht (List.mem_cons_of_mem _ hmem)

/-- Adds a module: in the place of the one with its name, or at the end. -/
def insertModule (modules : List Module) (m : Module) : List Module :=
  if modules.any fun other => decide (other.name = m.name) then
    modules.map fun other => if other.name = m.name then m else other
  else modules ++ [m]

/-- The names after adding a module. -/
theorem names_insertModule (modules : List Module) (m : Module) :
    (insertModule modules m).map Module.name =
      if m.name ∈ modules.map Module.name then modules.map Module.name
      else modules.map Module.name ++ [m.name] := by
  unfold insertModule
  by_cases h : m.name ∈ modules.map Module.name
  · have hany : (modules.any fun other => decide (other.name = m.name)) = true := by
      simpa [List.any_eq_true] using h
    rw [if_pos hany, if_pos h, List.map_map]
    apply List.map_congr_left
    intro other _
    simp only [Function.comp_apply]
    split
    next he => exact he.symm
    · rfl
  · have hany : ¬ (modules.any fun other => decide (other.name = m.name)) = true := by
      simpa [List.any_eq_true] using h
    rw [if_neg hany, if_neg h, List.map_append]
    rfl

/-- Adding a module keeps names distinct. -/
theorem nodup_insertModule {modules : List Module} (m : Module)
    (h : (modules.map Module.name).Nodup) : ((insertModule modules m).map Module.name).Nodup := by
  rw [names_insertModule]
  split
  · exact h
  next hm =>
    refine List.nodup_append.2 ⟨h, by simp, ?_⟩
    intro a ha b hb
    rw [List.mem_singleton.1 hb]
    exact fun hab => hm (hab ▸ ha)

/-- The modules of a list by name: a later one replaces an earlier one in its place. -/
def distinctModules (modules : List Module) : List Module := modules.foldl insertModule []

/-- Adding modules one by one keeps names distinct. -/
theorem nodup_foldl_insertModule (modules : List Module) {start : List Module}
    (h : (start.map Module.name).Nodup) :
    ((modules.foldl insertModule start).map Module.name).Nodup := by
  induction modules generalizing start with
  | nil => exact h
  | cons m rest ih => exact ih (nodup_insertModule m h)

/-- The modules of a list by name have distinct names. -/
theorem nodup_distinctModules (modules : List Module) :
    ((distinctModules modules).map Module.name).Nodup := nodup_foldl_insertModule modules (by simp)

/-- A workspace. -/
structure Workspace where
  files : List File := []
  modules : List Module := []
  holders : List Holder := []
  openFiles : List String := []
  recentFiles : List String := []
  changedFiles : List String := []
  currentFile? : Option String := none
  extraPresets : List Predicate := []
  urls_nodup : (files.map File.url).Nodup := by simp
  names_nodup : (modules.map Module.name).Nodup := by simp

/-- What cannot be found in, or built into, a workspace. -/
inductive WorkspaceError where
  | duplicateUrl (url : String)
  | notDirectory (url : String)
  | unknownDirectory (url : String)
  | unknownFile (url : String)
  deriving DecidableEq, Repr

namespace WorkspaceError

/-- The url that an error is about. -/
def url : WorkspaceError → String
  | .duplicateUrl url | .notDirectory url | .unknownDirectory url | .unknownFile url => url

/-- The text of an error. -/
def message : WorkspaceError → String
  | .duplicateUrl url => "Duplicate file URL '" ++ url ++ "'."
  | .notDirectory url => "URL '" ++ url ++ "' is not a directory."
  | .unknownDirectory url => "Directory URL '" ++ url ++ "' not found."
  | .unknownFile url => "File URL '" ++ url ++ "' not found."

end WorkspaceError

namespace Workspace

/-- The workspace of the given files, which need distinct urls, and modules. -/
def ofFiles (files : List File) (modules : List Module) (holders : List Holder) :
    Except WorkspaceError Workspace :=
  match h : firstRepeat? [] (files.map File.url) with
  | some url => .error (.duplicateUrl url)
  | none => .ok {
      files, modules := distinctModules modules, holders
      urls_nodup := (nodup_of_firstRepeat? h).1
      names_nodup := nodup_distinctModules modules }

/-- The file with a url. -/
def findFile? (ws : Workspace) (url : String) : Option File :=
  ws.files.find? fun f => decide (f.url = url)

/-- The module with a name. -/
def findModule? (ws : Workspace) (name : String) : Option Module :=
  ws.modules.find? fun m => decide (m.name = name)

/-- The holders that keep a scope with the given name. -/
def holdersOf (ws : Workspace) (name : String) : List Holder :=
  ws.holders.filter fun h => (h.get? name).isSome

/-- Changes the holder at an index. -/
def modifyHolder (ws : Workspace) (index : Nat) (change : Holder → Holder) : Workspace :=
  { ws with holders := ws.holders.modify index change }

/-- A file of a workspace is found under its url. -/
theorem findFile?_of_mem {ws : Workspace} {f : File} (h : f ∈ ws.files) :
    ws.findFile? f.url = some f := by
  have hnodup := ws.urls_nodup
  unfold findFile?
  generalize ws.files = files at h hnodup
  induction files with
  | nil => simp at h
  | cons g rest ih =>
    rw [List.map_cons, List.nodup_cons] at hnodup
    rcases List.mem_cons.1 h with rfl | h
    · simp
    · have hne : g.url ≠ f.url := fun he => hnodup.1 (he ▸ List.mem_map_of_mem h)
      simpa [hne] using ih h hnodup.2

/-- What is found under a url is a file of the workspace with that url. -/
theorem mem_of_findFile? {ws : Workspace} {url : String} {f : File}
    (h : ws.findFile? url = some f) : f ∈ ws.files ∧ f.url = url :=
  ⟨List.mem_of_find?_eq_some h, by simpa using List.find?_some h⟩

end Workspace

end ScopeAlgebra
