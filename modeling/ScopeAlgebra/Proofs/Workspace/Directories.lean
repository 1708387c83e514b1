import ScopeAlgebra.Proofs.Text.Slice
import ScopeAlgebra.Wire.Manifest
import ScopeAlgebra.Workspace.Scopes

/-!
# Files and their directories

The directory of a file is its url up to the last slash. A directory's url is read without the
slashes at its end and with one slash put behind it, so `directoryHead` is the url itself unless
that ends in two slashes (`directoryHead_eq_self_iff`). Then the scope of the directory holds what
lies in another one, and not the file (`directoryScope_parent_iff`).
-/

namespace ScopeAlgebra.Workspace

variable {ws : Workspace} {f : File} {url head : String}

/-! ## Files in directories -/

/-- The url of a file is that of a directory with a name behind it. -/
def LiesDirectlyIn (directory : String) (f : File) : Prop :=
  ∃ name, f.url = directory ++ name ∧ '/' ∉ name.toList

/-- The url of a file starts with that of a directory. -/
def LiesBelow (directory : String) (f : File) : Prop := ∃ rest, f.url = directory ++ rest

/-- What lies directly in a directory lies below it. -/
theorem LiesDirectlyIn.liesBelow (h : LiesDirectlyIn url f) : LiesBelow url f :=
  h.imp fun _ hname => hname.1

/-- The recursive scope of a directory takes in what lies below it. -/
theorem liesIn_recursive_iff : liesIn head true f = true ↔ LiesBelow head f := by
  rw [liesIn, Bool.true_or, Bool.and_true, Text.hasHead_iff, LiesBelow]

/-- The other scope of a directory takes in what lies directly in it. -/
theorem liesIn_direct_iff : liesIn head false f = true ↔ LiesDirectlyIn head f := by
  rw [liesIn, Bool.false_or, Bool.and_eq_true, Text.hasHead_iff]
  constructor
  · rintro ⟨⟨name, hname⟩, hslash⟩
    rw [hname, Text.afterHead_append] at hslash
    exact ⟨name, hname, by simpa using hslash⟩
  · rintro ⟨name, hname, hslash⟩
    rw [hname, Text.afterHead_append]
    exact ⟨⟨name, rfl⟩, by simpa using hslash⟩

/-- A directory in which a file lies has both of its scopes, unless its url is that of a file. -/
theorem directoryScope_of_liesBelow (hf : f ∈ ws.files) (hbelow : LiesBelow (directoryHead url) f)
    (hnone : ws.findFile? url = none) (recursive : Bool) :
    ∃ p, ws.directoryScope url recursive = .ok p ∧
      ∀ g, p.contains g = liesIn (directoryHead url) recursive g := by
  have hdirectory : ws.isDirectory url = true :=
    List.any_eq_true.mpr ⟨f, hf, Text.hasHead_iff.mpr hbelow⟩
  simp [directoryScope, hnone, hdirectory, Predicate.contains]

/-! ## The url of a directory -/

/-- The directory of a url: the url up to its last slash. -/
def parentUrl (url : String) : String := String.ofList (url.toList.rdropWhile (· ≠ '/'))

/-- A url with a slash is that of its directory, which ends in a slash, with a name behind it. -/
theorem exists_parentUrl (h : '/' ∈ url.toList) :
    ∃ front name, parentUrl url = front ++ "/" ∧ url = parentUrl url ++ name ∧
      '/' ∉ name.toList := by
  have hne : url.toList.rdropWhile (· ≠ '/') ≠ [] := by
    rw [ne_eq, List.rdropWhile_eq_nil_iff]
    exact fun hnone => absurd (hnone '/' h) (by decide)
  have hlast : (url.toList.rdropWhile (· ≠ '/')).getLast hne = '/' := by
    simpa using List.rdropWhile_last_not (· ≠ '/') url.toList hne
  -- The name is the longest end without a slash, so what is in front of it ends in one.
  refine ⟨String.ofList (url.toList.rdropWhile (· ≠ '/')).dropLast,
    String.ofList (url.toList.rtakeWhile (· ≠ '/')), ?_, ?_, ?_⟩
  · have hfront := List.dropLast_append_getLast hne
    rw [hlast] at hfront
    rw [parentUrl, ← String.toList_inj, String.toList_ofList, ← hfront]
    simp
  · rw [← String.toList_inj, parentUrl, String.toList_append, String.toList_ofList,
      String.toList_ofList, List.rdropWhile_append_rtakeWhile]
  · rw [String.toList_ofList]
    exact fun hmem => absurd (List.mem_rtakeWhile_imp hmem) (by decide)

/-- Slashes at the end of a directory's url do not count. -/
theorem directoryHead_append (front : String) :
    directoryHead (front ++ "/") = Text.stripRight '/' front ++ "/" := by
  have hstrip : Text.stripRight '/' (front ++ "/") = Text.stripRight '/' front := by
    rw [← String.toList_inj, Text.toList_stripRight, Text.toList_stripRight, String.toList_append]
    exact List.rdropWhile_concat_pos _ _ '/' (by decide)
  rw [directoryHead, hstrip]

/-- What is read of a directory's url is its start, behind which only slashes are left out. -/
theorem exists_replicate_directoryHead (front : String) :
    ∃ n, front ++ "/" = directoryHead (front ++ "/") ++ String.ofList (List.replicate n '/') := by
  obtain ⟨n, hfront⟩ := Text.exists_replicate_stripRight '/' front
  refine ⟨n, ?_⟩
  rw [directoryHead_append, ← String.toList_inj]
  have hmoved : List.replicate n '/' ++ ['/'] = ['/'] ++ List.replicate n '/' := by
    rw [← List.replicate_succ', List.replicate_succ, List.singleton_append]
  simpa [String.toList_append, hfront] using hmoved

/-- A url ends in two slashes. -/
def EndsInTwoSlashes (url : String) : Prop := ∃ front, url = front ++ "//"

/-- A url that ends in a slash ends in two when what stands in front of the last one ends in a
slash. -/
theorem endsInTwoSlashes_append_iff (front : String) :
    EndsInTwoSlashes (front ++ "/") ↔ front.toList.getLast? = some '/' := by
  rw [List.getLast?_eq_some_iff]
  constructor
  · rintro ⟨front', h⟩
    have hcharacters : front.toList ++ ['/'] = (front'.toList ++ ['/']) ++ ['/'] := by
      simpa [← String.toList_inj] using h
    exact ⟨front'.toList, List.append_cancel_right hcharacters⟩
  · rintro ⟨front', h⟩
    exact ⟨String.ofList front', by simp [← String.toList_inj, h]⟩

/-- A directory whose url ends in a slash is read as it is unless another slash stands in front of
that. -/
theorem directoryHead_eq_self_iff (front : String) :
    directoryHead (front ++ "/") = front ++ "/" ↔ ¬ EndsInTwoSlashes (front ++ "/") := by
  rw [directoryHead_append, endsInTwoSlashes_append_iff, ← ne_eq, ← Text.stripRight_eq_self_iff]
  simp

/-- What lies below a directory lies below it as its url is read. -/
theorem LiesBelow.directoryHead {front : String} (h : LiesBelow (front ++ "/") f) :
    LiesBelow (directoryHead (front ++ "/")) f := by
  obtain ⟨rest, hurl⟩ := h
  obtain ⟨n, hrest⟩ := exists_replicate_directoryHead front
  exact ⟨String.ofList (List.replicate n '/') ++ rest, by rw [← String.append_assoc, ← hrest, hurl]⟩

/-- A file with a directory's url in front lies directly in the directory that is read only when no
slash is left out. -/
theorem directoryHead_eq_of_liesDirectlyIn {front name : String}
    (hurl : f.url = front ++ "/" ++ name) (h : LiesDirectlyIn (directoryHead (front ++ "/")) f) :
    directoryHead (front ++ "/") = front ++ "/" := by
  obtain ⟨n, hrest⟩ := exists_replicate_directoryHead front
  obtain ⟨name', hurl', hslash⟩ := h
  have hsame : directoryHead (front ++ "/") ++ (String.ofList (List.replicate n '/') ++ name) =
      directoryHead (front ++ "/") ++ name' := by
    rw [← String.append_assoc, ← hrest, ← hurl, hurl']
  have hname : String.ofList (List.replicate n '/') ++ name = name' :=
    String.append_right_inj _ |>.mp hsame
  -- A slash that is left out would be part of the name.
  cases n with
  | zero => simpa using hrest.symm
  | succ n => exact absurd (by simp [← hname, List.replicate_succ]) hslash

/-! ## The directory of a file -/

/-- Every file whose url has a slash has a directory with both scopes, unless the directory's url is
that of a file. The scopes hold what lies in the directory as its url is read. This is what lies
directly in the directory, and the file in particular, exactly when its url does not end in two
slashes, for then it is read as it is. All that lies below it is what the other scope holds exactly
when no file lies below the url that is read and not below the directory. -/
theorem directoryScope_parent_iff (ws : Workspace) (f : File) (hf : f ∈ ws.files)
    (hslash : '/' ∈ f.url.toList) (hnone : ws.findFile? (parentUrl f.url) = none) :
    ∃ direct below, ws.directoryScope (parentUrl f.url) false = .ok direct ∧
      ws.directoryScope (parentUrl f.url) true = .ok below ∧
      (∀ g, direct.contains g = true ↔ LiesDirectlyIn (directoryHead (parentUrl f.url)) g) ∧
      (∀ g, below.contains g = true ↔ LiesBelow (directoryHead (parentUrl f.url)) g) ∧
      (directoryHead (parentUrl f.url) = parentUrl f.url ↔ ¬ EndsInTwoSlashes (parentUrl f.url)) ∧
      ((∀ g ∈ ws.files, direct.contains g = true ↔ LiesDirectlyIn (parentUrl f.url) g) ↔
        ¬ EndsInTwoSlashes (parentUrl f.url)) ∧
      (direct.contains f = true ↔ ¬ EndsInTwoSlashes (parentUrl f.url)) ∧
      ((∀ g ∈ ws.files, below.contains g = true ↔ LiesBelow (parentUrl f.url) g) ↔
        ∀ g ∈ ws.files, LiesBelow (directoryHead (parentUrl f.url)) g →
          LiesBelow (parentUrl f.url) g) ∧
      below.contains f = true := by
  obtain ⟨front, name, hparent, hurl, hname⟩ := exists_parentUrl hslash
  rw [hparent] at hurl hnone ⊢
  have hin : LiesDirectlyIn (front ++ "/") f := ⟨name, hurl, hname⟩
  have hbelow := hin.liesBelow.directoryHead
  have hself := directoryHead_eq_self_iff front
  obtain ⟨direct, hdirect, hcontains⟩ := directoryScope_of_liesBelow hf hbelow hnone false
  obtain ⟨below, hall, hcontains'⟩ := directoryScope_of_liesBelow hf hbelow hnone true
  have hdirectIff (g : File) :
      direct.contains g = true ↔ LiesDirectlyIn (directoryHead (front ++ "/")) g := by
    rw [hcontains, liesIn_direct_iff]
  have hbelowIff (g : File) :
      below.contains g = true ↔ LiesBelow (directoryHead (front ++ "/")) g := by
    rw [hcontains', liesIn_recursive_iff]
  -- The file lies directly in the directory by its own url, so only the slashes that are left out
  -- can exclude it.
  have hfile : direct.contains f = true ↔ ¬ EndsInTwoSlashes (front ++ "/") := by
    rw [hdirectIff, ← hself]
    refine ⟨directoryHead_eq_of_liesDirectlyIn hurl, fun h => ?_⟩
    rw [h]
    exact hin
  refine ⟨direct, below, hdirect, hall, hdirectIff, hbelowIff, hself, ?_, hfile, ?_, ?_⟩
  · constructor
    · exact fun hexact => hfile.mp ((hexact f hf).mpr hin)
    · intro hsingle g _
      rw [hdirectIff, hself.mpr hsingle]
  · constructor
    · exact fun hexact g hg h => (hexact g hg).mp ((hbelowIff g).mpr h)
    · exact fun hnoOther g hg => (hbelowIff g).trans ⟨hnoOther g hg, LiesBelow.directoryHead⟩
  · exact (hbelowIff f).mpr hbelow

/-- A manifest of files below a root, as a document. -/
def filesDocument (root : String) (paths : List String) : Json :=
  .object [("root", .string root), ("files", .array (paths.map .string))]

/-- The directory of a file holds what lies in it, in both of its scopes, when its url ends in one
slash. -/
theorem directoryScope_parent_single :
    ∃ ws direct below, Workspace.ofManifest (filesDocument "r" ["a/b", "a/s/c", "ab/d"]) = .ok ws ∧
      ws.directoryScope "r/a/" false = .ok direct ∧ ws.directoryScope "r/a/" true = .ok below ∧
      (∀ g ∈ ws.files, direct.contains g = true ↔ LiesDirectlyIn "r/a/" g) ∧
      (∀ g ∈ ws.files, below.contains g = true ↔ LiesBelow "r/a/" g) ∧
      direct.contains { url := "r/a/b", path := "a/b" } = true := by
  obtain ⟨ws, hws⟩ : ∃ ws, Workspace.ofManifest (filesDocument "r" ["a/b", "a/s/c", "ab/d"]) =
      .ok ws := ⟨_, rfl⟩
  have hfiles : ws.files = [{ url := "r/a/b", path := "a/b" },
      { url := "r/a/s/c", path := "a/s/c" }, { url := "r/ab/d", path := "ab/d" }] := by
    cases hws
    rfl
  have hparent : parentUrl "r/a/b" = "r/a/" := by decide
  obtain ⟨direct, below, hdirect, hbelow, -, -, hself, hdirectIff, hfile, hbelowIff, -⟩ :=
    directoryScope_parent_iff ws { url := "r/a/b", path := "a/b" } (by simp [hfiles]) (by decide)
      (by simp [findFile?, hfiles, hparent])
  rw [hparent] at hdirect hbelow hself hdirectIff hfile hbelowIff
  have hread : directoryHead "r/a/" = "r/a/" := by decide
  have hsingle := hself.mp hread
  refine ⟨ws, direct, below, hws, hdirect, hbelow, hdirectIff.mpr hsingle,
    hbelowIff.mpr fun g _ h => ?_, hfile.mpr hsingle⟩
  rwa [hread] at h

/-- Slashes that belong to a directory's url are left out with those behind it. The directory of
`r/a//b` does not hold this file, but another one instead, which does not lie in it. The directory
of a file right below a scheme exists because of the file, and does not hold it either. -/
theorem directoryScope_parent_doubled :
    (∃ ws direct below, Workspace.ofManifest (filesDocument "r" ["a//b", "a/c"]) = .ok ws ∧
      { url := "r/a//b", path := "a//b" } ∈ ws.files ∧
        { url := "r/a/c", path := "a/c" } ∈ ws.files ∧
      parentUrl "r/a//b" = "r/a//" ∧ ws.findFile? "r/a//" = none ∧
      ws.directoryScope "r/a//" false = .ok direct ∧ ws.directoryScope "r/a//" true = .ok below ∧
      direct.contains { url := "r/a//b", path := "a//b" } = false ∧
      direct.contains { url := "r/a/c", path := "a/c" } = true ∧
      below.contains { url := "r/a/c", path := "a/c" } = true ∧
      ¬ LiesBelow "r/a//" { url := "r/a/c", path := "a/c" }) ∧
    ∃ ws direct, Workspace.ofManifest (filesDocument "r" ["file:///x"]) = .ok ws ∧
      { url := "file:///x", path := "file:///x" } ∈ ws.files ∧ parentUrl "file:///x" = "file:///" ∧
      ws.findFile? "file:///" = none ∧ ws.directoryScope "file:///" false = .ok direct ∧
      direct.contains { url := "file:///x", path := "file:///x" } = false := by
  refine ⟨⟨_, _, _, rfl, by decide, by decide, by decide, by decide, rfl, rfl, by decide, by decide,
    by decide, ?_⟩, ⟨_, _, rfl, by decide, by decide, by decide, rfl, by decide⟩⟩
  rw [← liesIn_recursive_iff]
  decide

end ScopeAlgebra.Workspace
