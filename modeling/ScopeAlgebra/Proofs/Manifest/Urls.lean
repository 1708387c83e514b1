import ScopeAlgebra.Proofs.Text.Slice
import ScopeAlgebra.Wire.Manifest
import ScopeAlgebra.Workspace.Scopes

/-!
# Paths and urls of a manifest

The state of the editor names files by the paths of their entries or by their urls. A path always
names the file of its entry. A url names it when it is a full one, and that is so unless the path is
relative and the root loses its `://` with the slashes at its end (`isFullUrl_urlBelow`); then the
url is taken for a path below the root (`url_names_file_iff`).
-/

namespace ScopeAlgebra

/-! ## Full urls -/

namespace Manifest

variable {root path : String} {front back : List Char}

/-- Slashes in front do not make a url full. -/
theorem occursIn_replicate_append (n : Nat) (cs : List Char) :
    Text.occursIn [':', '/', '/'] (List.replicate n '/' ++ cs) =
      Text.occursIn [':', '/', '/'] cs := by
  induction n with
  | zero => rfl
  | succ n ih =>
    rw [List.replicate_succ, List.cons_append, Text.occursIn, ih]
    simp [List.isPrefixOf]

/-- A slash between two texts, neither of which has one there, starts no `://` in front of it. -/
theorem isPrefixOf_joined (hfront : front.getLast? ≠ some '/') (hback : back.head? ≠ some '/') :
    [':', '/', '/'].isPrefixOf (front ++ '/' :: back) = [':', '/', '/'].isPrefixOf front := by
  match front with
  | [] => rfl
  | [c] => cases back <;> grind [List.isPrefixOf]
  | [c, d] => grind [List.isPrefixOf]
  | c :: d :: e :: rest => simp [List.isPrefixOf]

/-- What a single slash joins holds `://` only when one of its sides does. -/
theorem occursIn_joined (hfront : front.getLast? ≠ some '/') (hback : back.head? ≠ some '/') :
    Text.occursIn [':', '/', '/'] (front ++ '/' :: back) =
      (Text.occursIn [':', '/', '/'] front || Text.occursIn [':', '/', '/'] back) := by
  -- At each place the mark would have to stand in the front alone, since behind the slash that
  -- joins there is no second one.
  induction front with
  | nil => exact occursIn_replicate_append 1 back
  | cons c rest ih =>
    have hhere := isPrefixOf_joined hfront hback
    rw [List.cons_append] at hhere ⊢
    have hrest : rest.getLast? ≠ some '/' := by
      cases rest with
      | nil => simp
      | cons d rest => simpa using hfront
    rw [Text.occursIn, Text.occursIn, hhere, ih hrest, Bool.or_assoc]

/-- Stripping slashes in front does not change whether a text is a full url. -/
theorem isFullUrl_stripLeft (path : String) :
    isFullUrl (Text.stripLeft '/' path) = isFullUrl path := by
  obtain ⟨n, hpath⟩ := Text.exists_replicate_stripLeft '/' path
  rw [isFullUrl, isFullUrl, hpath, occursIn_replicate_append]

/-- A url is full when the path is, or what the root keeps of itself. -/
theorem isFullUrl_urlBelow (root path : String) :
    isFullUrl (urlBelow root path) = (isFullUrl path || isFullUrl (Text.stripRight '/' root)) := by
  unfold urlBelow
  split
  next hpath => rw [hpath, Bool.true_or]
  next hpath =>
    have hjoined := occursIn_joined (Text.getLast?_stripRight '/' root)
      (Text.head?_stripLeft '/' path)
    have hfull : isFullUrl (Text.stripRight '/' root ++ "/" ++ Text.stripLeft '/' path) =
        (isFullUrl (Text.stripRight '/' root) || isFullUrl (Text.stripLeft '/' path)) := by
      simpa [isFullUrl] using hjoined
    rw [hfull, isFullUrl_stripLeft, Bool.or_comm]

/-- Of a root with `://` something is left. -/
theorem stripRight_ne_empty (hroot : isFullUrl root = true) : Text.stripRight '/' root ≠ "" := by
  intro hempty
  obtain ⟨n, hslashes⟩ := Text.exists_replicate_stripRight '/' root
  rw [hempty] at hslashes
  have hnone : isFullUrl root = false := by
    rw [isFullUrl, hslashes]
    simpa [Text.occursIn] using occursIn_replicate_append n []
  rw [hnone] at hroot
  contradiction

/-- The url of a path stands for itself only when it is full: another one is put below the root once
more. -/
theorem urlBelow_urlBelow_iff (hroot : isFullUrl root = true) :
    urlBelow root (urlBelow root path) = urlBelow root path ↔
      isFullUrl (urlBelow root path) = true := by
  refine ⟨fun hsame => ?_, fun hfull => if_pos hfull⟩
  by_contra hfull
  have hpath : ¬ isFullUrl path = true :=
    fun hpath => hfull (by rw [urlBelow, if_pos hpath]; exact hpath)
  have hurl : urlBelow root path = Text.stripRight '/' root ++ "/" ++ Text.stripLeft '/' path :=
    if_neg hpath
  have htwice : urlBelow root (urlBelow root path) =
      Text.stripRight '/' root ++ "/" ++ Text.stripLeft '/' (urlBelow root path) := if_neg hfull
  -- Stripping the url takes slashes off the root, which ends in another character, so the path
  -- behind it stays.
  have hleft : Text.stripLeft '/' (Text.stripRight '/' root) ≠ "" :=
    Text.stripLeft_ne_empty (stripRight_ne_empty hroot) (Text.getLast?_stripRight '/' root)
  have hstripped : Text.stripLeft '/' (urlBelow root path) =
      Text.stripLeft '/' (Text.stripRight '/' root) ++ ("/" ++ Text.stripLeft '/' path) := by
    rw [hurl, String.append_assoc, Text.stripLeft_append hleft]
  rw [htwice, hstripped, hurl] at hsame
  have hlength := congrArg String.length hsame
  have hpositive : (Text.stripLeft '/' (Text.stripRight '/' root)).length ≠ 0 := by
    simpa using hleft
  simp only [String.length_append] at hlength
  have hslash : "/".length = 1 := rfl
  omega

end Manifest

/-! ## What the editor shows -/

/-- The standard scopes that show the state of the editor. -/
def StandardScope.ofEditor : List StandardScope :=
  [.openFiles, .recentlyViewed, .recentlyChanged, .currentFile]

/-- A standard scope is available and accepts a file. -/
def Workspace.Selects (ws : Workspace) (scope : StandardScope) (f : File) : Prop :=
  ∃ p, ws.standardScope? scope = some p ∧ p.contains f = true

/-- Files are kept as they are given. -/
theorem Workspace.files_of_ofFiles {files : List File} {modules : List Module}
    {holders : List Holder} {ws : Workspace}
    (h : Workspace.ofFiles files modules holders = .ok ws) : ws.files = files := by
  unfold Workspace.ofFiles at h
  split at h
  · contradiction
  · cases h
    rfl

namespace Manifest

variable {m : Manifest} {ws : Workspace} {path : String}

/-- The paths of all entries, those of files and those of libraries. -/
def entryPaths (m : Manifest) : List String :=
  m.files.map FileEntry.path ++ m.libraries.flatMap fun entry => entry.2

/-- The names by which a manifest gives the files that the editor shows. An empty one gives no
current file. -/
def names (m : Manifest) : StandardScope → List String
  | .openFiles => m.openFiles
  | .recentlyViewed => m.recentFiles
  | .recentlyChanged => m.changedFiles
  | .currentFile => m.currentFile?.toList.filter fun name => !name.isEmpty
  | _ => []

/-- What a workspace takes over from its manifest, apart from modules and named scopes. -/
structure Loads (m : Manifest) (ws : Workspace) : Prop where
  files : ws.files = m.allFiles
  openFiles : ws.openFiles = m.openFiles.map m.urlFor
  recentFiles : ws.recentFiles = m.recentFiles.map m.urlFor
  changedFiles : ws.changedFiles = m.changedFiles.map m.urlFor
  currentFile? : ws.currentFile? = m.currentUrl?

/-- A workspace that is built from a manifest takes over its files and what the editor shows. -/
theorem loads_of_toWorkspace (h : m.toWorkspace = .ok ws) : m.Loads ws := by
  unfold toWorkspace at h
  split at h
  · contradiction
  next built hbuilt =>
    have hfiles : built.files = m.allFiles := Workspace.files_of_ofFiles hbuilt
    cases h
    exact ⟨hfiles, rfl, rfl, rfl, rfl⟩

/-- Every entry has a file in the workspace. -/
theorem Loads.exists_file (h : m.Loads ws) (hpath : path ∈ m.entryPaths) :
    ∃ f ∈ ws.files, f.url = m.urlFor path := by
  rw [h.files, allFiles]
  -- An entry is that of a file or of a library.
  rcases List.mem_append.mp hpath with hpath | hpath
  · obtain ⟨entry, hentry, rfl⟩ := List.mem_map.mp hpath
    exact ⟨m.fileOf entry, List.mem_append_left _ (List.mem_map_of_mem hentry), rfl⟩
  · obtain ⟨⟨library, paths⟩, hlibrary, hpath⟩ := List.mem_flatMap.mp hpath
    exact ⟨_, List.mem_append_right _ (List.mem_flatMap.mpr ⟨_, hlibrary,
      List.mem_map_of_mem hpath⟩), rfl⟩

/-- The editor shows the files whose urls the names of the manifest stand for. -/
theorem Loads.selects_iff (h : m.Loads ws) {scope : StandardScope}
    (hscope : scope ∈ StandardScope.ofEditor) (f : File) :
    ws.Selects scope f ↔ ∃ name ∈ m.names scope, m.urlFor name = f.url := by
  have hcurrent : m.currentUrl? = some f.url ↔ ∃ name ∈ m.names .currentFile,
      m.urlFor name = f.url := by
    cases hname : m.currentFile? with
    | none => simp [currentUrl?, names, hname]
    | some name => by_cases hempty : name = "" <;> simp [currentUrl?, names, hname, hempty]
  simp only [StandardScope.ofEditor, List.mem_cons, List.not_mem_nil, or_false] at hscope
  -- Three of the scopes show lists of files and one shows at most one.
  rcases hscope with rfl | rfl | rfl | rfl
  · simp [Workspace.Selects, Workspace.standardScope?, Predicate.ofUrls, Predicate.contains,
      h.openFiles, names]
  · simp [Workspace.Selects, Workspace.standardScope?, Predicate.ofUrls, Predicate.contains,
      h.recentFiles, names]
  · simp [Workspace.Selects, Workspace.standardScope?, Predicate.ofUrls, Predicate.contains,
      h.changedFiles, names]
  · rw [← hcurrent]
    simp [Workspace.Selects, Workspace.standardScope?, Predicate.contains, h.currentFile?]

/-- Where the editor shows the files of a single name, it shows one file exactly when the name
stands for its url. -/
theorem Loads.selects_only_iff (h : m.Loads ws) {scope : StandardScope}
    (hscope : scope ∈ StandardScope.ofEditor) {name : String} (hname : m.names scope = [name])
    {f : File} (hf : f ∈ ws.files) :
    (∀ g ∈ ws.files, ws.Selects scope g ↔ g = f) ↔ m.urlFor name = f.url := by
  have hselects (g : File) : ws.Selects scope g ↔ m.urlFor name = g.url := by
    rw [h.selects_iff hscope, hname]
    simp
  constructor
  · exact fun honly => (hselects f).mp ((honly f hf).mpr rfl)
  · intro hurl g hg
    rw [hselects, hurl]
    constructor
    · intro hsame
      -- Urls are unique in a workspace, so a file is found by its own.
      have hfound : ws.findFile? g.url = some g := Workspace.findFile?_of_mem hg
      rw [← hsame, Workspace.findFile?_of_mem hf] at hfound
      exact (Option.some.inj hfound).symm
    · rintro rfl
      rfl

/-- Every entry of a manifest whose root holds `://` has a file in the workspace. The url of the
file stands for itself exactly when the path of the entry is a full url or the root keeps its `://`
without the slashes at its end; otherwise it is put below the root once more. The editor shows the
files whose urls the names of the manifest stand for, so the path alone makes it show that file and
no other, and so does the url alone, unless it is one that does not stand for itself. -/
theorem url_names_file_iff (m : Manifest) (ws : Workspace) (hws : m.toWorkspace = .ok ws)
    (hroot : isFullUrl m.root = true) (path : String) (hpath : path ∈ m.entryPaths) :
    ∃ f ∈ ws.files, f.url = m.urlFor path ∧
      (m.urlFor f.url = f.url ↔ isFullUrl path = true ∨
        isFullUrl (Text.stripRight '/' m.root) = true) ∧
      ∀ scope ∈ StandardScope.ofEditor,
        (∀ g, ws.Selects scope g ↔ ∃ name ∈ m.names scope, m.urlFor name = g.url) ∧
        (m.names scope = [path] → ∀ g ∈ ws.files, ws.Selects scope g ↔ g = f) ∧
        (m.names scope = [f.url] → ((∀ g ∈ ws.files, ws.Selects scope g ↔ g = f) ↔
          isFullUrl path = true ∨ isFullUrl (Text.stripRight '/' m.root) = true)) := by
  have hloads : m.Loads ws := loads_of_toWorkspace hws
  obtain ⟨f, hf, hurl⟩ := hloads.exists_file hpath
  have hself : m.urlFor f.url = f.url ↔ isFullUrl path = true ∨
      isFullUrl (Text.stripRight '/' m.root) = true := by
    rw [hurl, urlFor, urlFor, urlBelow_urlBelow_iff hroot, isFullUrl_urlBelow, Bool.or_eq_true]
  refine ⟨f, hf, hurl, hself, fun scope hscope => ⟨hloads.selects_iff hscope, fun hname => ?_,
    fun hname => ?_⟩⟩
  · exact (hloads.selects_only_iff hscope hname hf).mpr hurl.symm
  · exact (hloads.selects_only_iff hscope hname hf).trans hself

/-! ## A root that keeps its mark, and one that loses it -/

/-- A manifest of a file and of a library, whose editor shows the file with the given name. -/
def shownManifest (root name : String) : Manifest where
  root := root
  files := [{ path := "/a" }]
  libraries := [("l", ["b"])]
  openFiles := [name]
  currentFile? := some name

/-- The same as a document. -/
def shownDocument (root name : String) : Json :=
  .object [("root", .string root), ("files", .array [.string "/a"]),
    ("libraries", .object [("l", .array [.string "b"])]), ("open_files", .array [.string name]),
    ("current_file", .string name)]

/-- A file of a library is shown by its url, the slash at the end of the root notwithstanding. -/
theorem url_names_libraryFile :
    Manifest.ofJson (shownDocument "file:///w/" "file:///w/b") =
      .ok (shownManifest "file:///w/" "file:///w/b") ∧
        ∃ ws, (shownManifest "file:///w/" "file:///w/b").toWorkspace = .ok ws ∧
          ∃ f ∈ ws.files, f.url = "file:///w/b" ∧
          (∀ g ∈ ws.files, ws.Selects .openFiles g ↔ g = f) ∧
            ∀ g ∈ ws.files, ws.Selects .currentFile g ↔ g = f := by
  obtain ⟨f, hf, hurl, -, hshown⟩ :=
    url_names_file_iff (shownManifest "file:///w/" "file:///w/b") _ rfl (by decide) "b"
    (by decide)
  have hurl' : f.url = "file:///w/b" := hurl
  have hfull : isFullUrl "b" = true ∨ isFullUrl (Text.stripRight '/' "file:///w/") = true :=
    .inr (by decide)
  have honly (scope : StandardScope) (hscope : scope ∈ StandardScope.ofEditor)
      (hname : (shownManifest "file:///w/" "file:///w/b").names scope = ["file:///w/b"]) :
      ∀ g ∈ _, Workspace.Selects _ scope g ↔ g = f :=
    ((hshown scope hscope).2.2 (hurl'.symm ▸ hname)).mpr hfull
  refine ⟨rfl, _, rfl, f, hf, hurl', ?_, ?_⟩
  · exact honly .openFiles (by decide) (by decide)
  · exact honly .currentFile (by decide) (by decide)

/-- Below a root that is nothing but a scheme the url of a file is taken for a path, and the editor
does not show the file by it. -/
theorem url_misses_file :
    Manifest.ofJson (shownDocument "file:///" "file:/a") =
      .ok (shownManifest "file:///" "file:/a") ∧
        isFullUrl (shownManifest "file:///" "file:/a").root = true ∧
      ∃ ws, (shownManifest "file:///" "file:/a").toWorkspace = .ok ws ∧
        ∃ f ∈ ws.files, f.url = (shownManifest "file:///" "file:/a").urlFor "/a" ∧
          f.url = "file:/a" ∧ (shownManifest "file:///" "file:/a").urlFor f.url = "file:/file:/a" ∧
          ¬ ws.Selects .openFiles f ∧ ¬ ws.Selects .currentFile f := by
  refine ⟨rfl, by decide, _, rfl, { url := "file:/a", path := "a" }, by decide, by decide, rfl,
    by decide, ?_, ?_⟩ <;>
    · rintro ⟨p, hp, hf⟩
      cases hp
      exact absurd hf (by decide)

end Manifest

end ScopeAlgebra
