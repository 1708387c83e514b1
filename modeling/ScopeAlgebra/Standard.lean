import ScopeAlgebra.Vocabulary

/-!
# Standard scopes

The presets that every workspace understands, their display names, and which of them follow the
state of the editor. A quick preset stands for one standard scope.
-/

namespace ScopeAlgebra

/-- The well-known presets. -/
inductive StandardScope where
  | allPlaces
  | projectAndLibraries
  | projectFiles
  | productionFiles
  | testFiles
  | libraries
  | scratches
  | openFiles
  | recentlyViewed
  | recentlyChanged
  | currentFile
  deriving DecidableEq, Repr, Inhabited

instance : Vocabulary StandardScope where
  title := "StandardScope"
  all := [.allPlaces, .projectAndLibraries, .projectFiles, .productionFiles, .testFiles, .libraries,
    .scratches, .openFiles, .recentlyViewed, .recentlyChanged, .currentFile]
  word
    | .allPlaces => "AllPlaces"
    | .projectAndLibraries => "ProjectAndLibraries"
    | .projectFiles => "ProjectFiles"
    | .productionFiles => "ProjectProductionFiles"
    | .testFiles => "ProjectTestFiles"
    | .libraries => "ProjectLibraries"
    | .scratches => "ScratchesAndConsoles"
    | .openFiles => "OpenFiles"
    | .recentlyViewed => "RecentlyViewedFiles"
    | .recentlyChanged => "RecentlyChangedFiles"
    | .currentFile => "CurrentFile"
  find_word := by intro a; cases a <;> rfl

namespace StandardScope

/-- The name under which a standard scope is shown. -/
def displayName : StandardScope → String
  | .allPlaces => "All Places"
  | .projectAndLibraries => "Project and Libraries"
  | .projectFiles => "Project Files"
  | .productionFiles => "Project Production Files"
  | .testFiles => "Project Test Files"
  | .libraries => "Project Libraries"
  | .scratches => "Scratches and Consoles"
  | .openFiles => "Open Files"
  | .recentlyViewed => "Recently Viewed Files"
  | .recentlyChanged => "Recently Changed Files"
  | .currentFile => "Current File"

/-- Whether the contents follow the state of the editor and may change between calls. -/
def isUnstable : StandardScope → Bool
  | .currentFile | .openFiles | .recentlyViewed | .recentlyChanged => true
  | _ => false

/-- The standard scope that is shown as `name`. -/
def ofDisplayName? (name : String) : Option StandardScope :=
  (Vocabulary.all : List StandardScope).find? fun scope => decide (scope.displayName = name)

@[simp] theorem ofDisplayName?_displayName (scope : StandardScope) :
    ofDisplayName? scope.displayName = some scope := by cases scope <;> rfl

/-- A standard scope found by its name is shown under it. -/
theorem displayName_of_ofDisplayName? {name : String} {scope : StandardScope}
    (h : ofDisplayName? name = some scope) : scope.displayName = name := by
  simpa using List.find?_some h

end StandardScope

/-- The quick presets. -/
inductive ScopePreset where
  | projectFiles
  | allPlaces
  | openFiles
  | projectAndLibraries
  | productionFiles
  | testFiles
  deriving DecidableEq, Repr, Inhabited

instance : Vocabulary ScopePreset where
  title := "ScopePreset"
  all := [.projectFiles, .allPlaces, .openFiles, .projectAndLibraries, .productionFiles, .testFiles]
  word
    | .projectFiles => "project_files"
    | .allPlaces => "all_places"
    | .openFiles => "open_files"
    | .projectAndLibraries => "project_and_libraries"
    | .productionFiles => "project_production_files"
    | .testFiles => "project_test_files"
  find_word := by intro a; cases a <;> rfl

/-- The standard scope that a quick preset stands for. -/
def ScopePreset.standard : ScopePreset → StandardScope
  | .projectFiles => .projectFiles
  | .allPlaces => .allPlaces
  | .openFiles => .openFiles
  | .projectAndLibraries => .projectAndLibraries
  | .productionFiles => .productionFiles
  | .testFiles => .testFiles

end ScopeAlgebra
