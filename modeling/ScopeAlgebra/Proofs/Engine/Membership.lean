import ScopeAlgebra.Engine.Membership
import ScopeAlgebra.Proofs.Catalog.Providers
import ScopeAlgebra.Proofs.Plan
import ScopeAlgebra.Proofs.Program.Leniency

/-!
# Three ways to ask for members

One file can be asked about, many urls can be sorted, and the files of the workspace can be searched
by a plan. Sorting puts every occurrence of a url where the answer about that url puts it
(`sorts_foldl`), and a search finds what sorting the urls of all files matches. `membership_agrees`
puts the three together.
-/

namespace ScopeAlgebra

/-- Three lists of urls sort others by a verdict on each, which is missing for some. They keep the
order of the urls and how often each occurs. -/
structure Sorts (verdict? : String → Option Bool) (urls matched excluded missing : List String) :
    Prop where
  matched_eq : matched = urls.filter fun url => verdict? url = some true
  excluded_eq : excluded = urls.filter fun url => verdict? url = some false
  missing_eq : missing = urls.filter fun url => verdict? url = none

/-- Sorting loses no occurrence and makes up none. -/
theorem Sorts.perm {verdict? : String → Option Bool} {urls matched excluded missing : List String}
    (h : Sorts verdict? urls matched excluded missing) :
    (matched ++ (excluded ++ missing)).Perm urls := by
  -- What is not matched is excluded or missing.
  have hrest : (excluded ++ missing).Perm
      (urls.filter fun url => !decide (verdict? url = some true)) := by
    have hsplit := List.filter_append_perm (fun url => decide (verdict? url = some false))
      (urls.filter fun url => !decide (verdict? url = some true))
    rw [List.filter_filter, List.filter_filter] at hsplit
    refine List.Perm.trans (List.Perm.of_eq ?_) hsplit
    rw [h.excluded_eq, h.missing_eq]
    congr 1 <;> refine List.filter_congr fun url _ => ?_ <;>
      rcases verdict? url with _ | _ | _ <;> rfl
  rw [h.matched_eq]
  exact (hrest.append_left _).trans (List.filter_append_perm _ urls)

namespace Engine

variable {e : Engine} {d : Descriptor} {allow? : Option Bool} {ws : Workspace} {scope : Resolved}

/-- Whether the file with a url belongs to a scope, where there is such a file. -/
def verdict? (ws : Workspace) (scope : Resolved) (url : String) : Option Bool :=
  (ws.findFile? url).map scope.predicate.contains

/-! ## Sorting -/

/-- One more url is put in the list that its verdict names, behind those that were sorted before. -/
theorem sorts_add {seen : List String} {sorted : Sorting} (url : String)
    (h : Sorts (verdict? ws scope) seen sorted.matched sorted.excluded sorted.missing) :
    Sorts (verdict? ws scope) (seen ++ [url]) (sorted.add ws scope url).matched
      (sorted.add ws scope url).excluded (sorted.add ws scope url).missing := by
  obtain ⟨hmatched, hexcluded, hmissing⟩ := h
  unfold Sorting.add
  -- No file, a file outside of the scope or one in it: each case fills one of the three lists.
  cases hfile : ws.findFile? url with
  | none =>
    have hverdict : verdict? ws scope url = none := by rw [verdict?, hfile, Option.map_none]
    constructor <;> simp [List.filter_append, hverdict, hmatched, hexcluded, hmissing]
  | some f =>
    have hverdict : verdict? ws scope url = some (scope.predicate.contains f) := by
      rw [verdict?, hfile, Option.map_some]
    cases hcontains : scope.predicate.contains f <;> rw [hcontains] at hverdict <;>
      constructor <;> simp [hcontains, List.filter_append, hverdict, hmatched, hexcluded, hmissing]

/-- Urls that are sorted one after the other are sorted by their verdicts. -/
theorem sorts_foldl (urls : List String) {seen : List String} (sorted : Sorting)
    (h : Sorts (verdict? ws scope) seen sorted.matched sorted.excluded sorted.missing) :
    let final := urls.foldl (Sorting.add ws scope) sorted
    Sorts (verdict? ws scope) (seen ++ urls) final.matched final.excluded final.missing := by
  -- The invariant is that the urls so far are sorted by their verdicts, each list in order.
  induction urls generalizing seen sorted with
  | nil => simpa using h
  | cons url rest ih =>
    have hrest := ih _ (sorts_add url h)
    rwa [List.append_assoc] at hrest

/-! ## Answers -/

/-- What is answered about the file with a url, if an answer is given. -/
def member? (e : Engine) (d : Descriptor) (allow? : Option Bool) (url : String) : Option Bool :=
  (e.containsFile d url allow?).toOption.map FileAnswer.isMember

/-- About a single url an answer is given when there is a file with it, and it is the verdict on
that file. -/
theorem containsFile_of_resolve (h : e.resolve d allow? (some true) = .ok scope) (url : String) :
    (∃ err, e.containsFile d url allow? = .error err ∧ verdict? e.workspace scope url = none ∧
      err = if e.workspace.isDirectory url then .isDirectory url else .noSuchFile url) ∨
    ∃ one, e.containsFile d url allow? = .ok one ∧
      verdict? e.workspace scope url = some one.isMember ∧ one.displayName = scope.displayName ∧
        one.shape = scope.shape := by
  rw [verdict?]
  -- Without a file there is an error, which one depending on whether there is such a directory.
  cases hfile : e.workspace.findFile? url with
  | none =>
    refine .inl ⟨_, bind_eq_error.mpr (.inr ⟨scope, h, ?_⟩), rfl, rfl⟩
    rw [hfile]
    exact (apply_ite Except.error _ _ _).symm
  | some f =>
    have hanswer : e.containsFile d url allow? = .ok ⟨url, scope.predicate.contains f,
        scope.displayName, scope.shape, mergeDiagnostics [d.diagnostics, scope.diagnostics]⟩ := by
      refine bind_eq_ok.mpr ⟨scope, h, ?_⟩
      rw [hfile]
      rfl
    exact .inr ⟨_, hanswer, rfl, rfl, rfl⟩

/-- Once the descriptor resolves, the single questions give the verdicts of its scope. -/
theorem member?_of_resolve (h : e.resolve d allow? (some true) = .ok scope) :
    e.member? d allow? = verdict? e.workspace scope := by
  funext url
  rcases containsFile_of_resolve h url with ⟨err, hone, hverdict, -⟩ | ⟨one, hone, hverdict, -⟩
  · rw [member?, hone, hverdict]
    rfl
  · rw [member?, hone, hverdict]
    rfl

/-- Where a descriptor resolves, urls are sorted as the answers about them say. -/
theorem filterFiles_of_resolve (h : e.resolve d allow? (some true) = .ok scope)
    (urls : List String) :
    ∃ answer, e.filterFiles d urls allow? = .ok answer ∧ answer.displayName = scope.displayName ∧
      answer.shape = scope.shape ∧
      Sorts (e.member? d allow?) urls answer.matched answer.excluded answer.missing := by
  have hfilter : e.filterFiles d urls allow? =
      let sorted := urls.foldl (Sorting.add e.workspace scope) {}
      .ok ⟨scope.displayName, scope.shape, sorted.matched, sorted.excluded, sorted.missing,
        mergeDiagnostics [d.diagnostics, scope.diagnostics, sorted.notes]⟩ := by
    rw [filterFiles, h]
    rfl
  have hstart : Sorts (verdict? e.workspace scope) [] [] [] [] := ⟨rfl, rfl, rfl⟩
  refine ⟨_, hfilter, rfl, rfl, ?_⟩
  rw [member?_of_resolve h]
  exact sorts_foldl urls {} hstart

/-- A scope that a descriptor resolves to has the shape of its predicate. -/
theorem shape_of_resolve {strict? : Option Bool} (h : e.resolve d allow? strict? = .ok scope) :
    scope.shape = scope.predicate.shape := by
  obtain ⟨_, -, hrequest⟩ := bind_eq_ok.mp h
  obtain ⟨catalog, -, hevaluate⟩ := bind_eq_ok.mp hrequest
  obtain ⟨-, p, notes, -, rfl⟩ := Program.execute_eq_ok.mp (Program.evaluate_eq_ok.mp hevaluate).2
  rfl

/-- The urls of all files of a scope are those of the files that the scope contains. -/
theorem filter_verdict?_urls (ws : Workspace) (scope : Resolved) :
    (ws.files.map File.url).filter (fun url => verdict? ws scope url = some true) =
      (ws.files.filter scope.predicate.contains).map File.url := by
  rw [List.filter_map]
  refine congrArg (List.map File.url) (List.filter_congr fun f hf => ?_)
  have hverdict : verdict? ws scope f.url = some (scope.predicate.contains f) := by
    rw [verdict?, Workspace.findFile?_of_mem hf, Option.map_some]
  simp [hverdict]

/-- A descriptor that does not resolve gives the same error for every question about members. For
one that does, an answer about one url is given unless there is no file with it, with the name and
the shape of the scope; every list of urls is sorted by these answers, under the same name and
shape, each occurrence once and in order; and a search of the workspace selects, in the same order,
the files that sorting all their urls matches, as long as foreign predicates split truthfully. -/
theorem membership_agrees (e : Engine) (d : Descriptor) (allow? : Option Bool) :
    (∀ err, e.resolve d allow? (some true) = .error err →
      (∀ url, e.containsFile d url allow? = .error err) ∧
        ∀ urls, e.filterFiles d urls allow? = .error err) ∧
    ∀ scope, e.resolve d allow? (some true) = .ok scope →
      (∀ url err, e.containsFile d url allow? = .error err → err.family = .resolution) ∧
      (∀ url one, e.containsFile d url allow? = .ok one →
        one.displayName = scope.displayName ∧ one.shape = scope.shape) ∧
      (∀ urls, ∃ answer, e.filterFiles d urls allow? = .ok answer ∧
        answer.displayName = scope.displayName ∧ answer.shape = scope.shape ∧
        Sorts (e.member? d allow?) urls answer.matched answer.excluded answer.missing ∧
        (answer.matched ++ (answer.excluded ++ answer.missing)).Perm urls) ∧
      (scope.predicate.LeavesFaithful →
        ∃ answer, e.filterFiles d (e.workspace.files.map File.url) allow? = .ok answer ∧
          answer.matched =
            ((SearchPlan.ofResolved scope Workspace.everything).select e.workspace.files).map
              File.url) := by
  refine ⟨fun err h => ⟨fun url => ?_, fun urls => ?_⟩, fun scope h => ⟨?_, ?_, ?_, ?_⟩⟩
  · exact bind_eq_error.mpr (.inl h)
  · exact bind_eq_error.mpr (.inl h)
  · intro url err herr
    rcases containsFile_of_resolve h url with ⟨err', hone, -, hcause⟩ | ⟨one, hone, -⟩
    · rw [hone] at herr
      cases herr
      rw [hcause]
      split <;> rfl
    · rw [hone] at herr
      contradiction
  · intro url one hone
    rcases containsFile_of_resolve h url with ⟨err, herr, -⟩ | ⟨one', hone', -, hname, hshape⟩
    · rw [herr] at hone
      contradiction
    · rw [hone'] at hone
      cases hone
      exact ⟨hname, hshape⟩
  · intro urls
    obtain ⟨answer, hanswer, hname, hshape, hsorts⟩ := filterFiles_of_resolve h urls
    exact ⟨answer, hanswer, hname, hshape, hsorts, hsorts.perm⟩
  -- A search is exact for leaves that split truthfully, and all urls of the workspace are urls of
  -- files.
  · intro hleaves
    obtain ⟨answer, hanswer, -, -, hsorts⟩ :=
      filterFiles_of_resolve h (e.workspace.files.map File.url)
    refine ⟨answer, hanswer, ?_⟩
    have hplan := SearchPlan.exact_ofResolved scope (shape_of_resolve h) hleaves
    rw [hsorts.matched_eq, member?_of_resolve h, filter_verdict?_urls, hplan.select_eq]

/-- An engine with two files in a directory. -/
def pairEngine : Engine where
  workspace := {
    files := [⟨"d/a", "a", none, .source, none⟩, ⟨"d/b", "b", none, .test, none⟩]
    modules := []
    urls_nodup := by decide
    names_nodup := List.nodup_nil }

/-- A descriptor of the first of them. -/
def firstDescriptor : Descriptor where
  atoms := [{ id := "a", kind := .fileSet, fileUrls := ["d/a"] }]
  tokens := [Token.ofAtom "a"]
  displayName := "a"

/-- A file that is asked for twice is matched twice; the directory and a url of nothing are
missing. -/
theorem membership_pairEngine :
    ∃ scope, pairEngine.resolve firstDescriptor none (some true) = .ok scope ∧
    scope.predicate.LeavesFaithful ∧
    (∃ answer, pairEngine.filterFiles firstDescriptor ["d/b", "d/a", "d", "d/a", "e"] none = .ok
      answer ∧ answer.matched = ["d/a", "d/a"] ∧ answer.excluded = ["d/b"] ∧
        answer.missing = ["d", "e"]) ∧
    ∃ answer, pairEngine.filterFiles firstDescriptor ["d/a", "d/b"] none = .ok answer ∧
      answer.matched =
        ((SearchPlan.ofResolved scope Workspace.everything).select pairEngine.workspace.files).map
          File.url := by
  have hproviders : ∀ p ∈ pairEngine.providers, p.Completes pairEngine.workspace := by
    simp [pairEngine]
  obtain ⟨catalog, hbuild⟩ := Catalog.exists_build_iff.mpr hproviders
  have hcatalog : pairEngine.catalog = .ok catalog := mapError_eq_ok.mpr hbuild
  obtain ⟨scope, hscope, hleaves, hcontains⟩ :
      ∃ scope, pairEngine.resolve firstDescriptor none (some true) = .ok scope ∧
        scope.predicate.LeavesFaithful ∧
        scope.predicate.contains = fun f => ["d/a"].contains f.url := by
    refine ⟨_, bind_eq_ok.mpr ⟨(), rfl, bind_eq_ok.mpr ⟨catalog, hcatalog, rfl⟩⟩, trivial, rfl⟩
  obtain ⟨-, hresolved⟩ := membership_agrees pairEngine firstDescriptor none
  obtain ⟨-, -, hfilter, hplan⟩ := hresolved scope hscope
  obtain ⟨answer, hanswer, -, -, hsorts, -⟩ := hfilter ["d/b", "d/a", "d", "d/a", "e"]
  have hmember : pairEngine.member? firstDescriptor none = fun url =>
      (pairEngine.workspace.findFile? url).map fun f => ["d/a"].contains f.url := by
    rw [member?_of_resolve hscope, ← hcontains]
    rfl
  rw [hmember] at hsorts
  refine ⟨scope, hscope, hleaves, ⟨answer, hanswer, ?_, ?_, ?_⟩, hplan hleaves⟩
  · exact hsorts.matched_eq.trans (by decide)
  · exact hsorts.excluded_eq.trans (by decide)
  · exact hsorts.missing_eq.trans (by decide)

end Engine

end ScopeAlgebra
