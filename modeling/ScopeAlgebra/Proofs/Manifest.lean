import ScopeAlgebra.Proofs.Schema.Reader
import ScopeAlgebra.Wire.Manifest

/-!
# Names in a manifest

A manifest with an empty name is refused, so in a workspace that comes from one every module, every
holder and every named scope has a name (`labelled_of_ofManifest`).
-/

namespace ScopeAlgebra

open Schema

/-- The scopes of a holder have names, and so has the holder. -/
structure Holder.Labelled (holder : Holder) : Prop where
  id : holder.id ≠ ""
  scopes : ∀ scope ∈ holder.scopes, scope.name ≠ ""

/-- No module, holder or named scope of a workspace has an empty name. -/
structure Workspace.Labelled (ws : Workspace) : Prop where
  modules : ∀ m ∈ ws.modules, m.name ≠ ""
  holders : ∀ holder ∈ ws.holders, holder.Labelled

namespace Manifest

variable {α : Type} {read : Reader α} {P : α → Prop}

/-! ## Readers of a manifest -/

/-- What holds of every entry that is read holds of all entries of a list, and null has none. -/
theorem yields_listOrNull (h : Yields read P) :
    Yields (listOrNull read) fun xs => ∀ x ∈ xs, P x := by
  intro json xs hread
  unfold listOrNull at hread
  split at hread
  · cases hread
    simp
  · exact h.listOf _ xs hread

/-- An entry that is given by a bare text is read from an object with that text. -/
theorem yields_bareOr {name : String} (h : Yields read P) : Yields (bareOr name read) P := by
  intro json a hread
  unfold bareOr at hread
  split at hread <;> exact h _ a hread

/-- A module that is read has a name. -/
theorem yields_readModuleEntry : Yields readModuleEntry fun m => m.name ≠ "" := by
  refine yields_model fun fields m hread => ?_
  obtain ⟨_, libraries, hrest₁, -, rfl⟩ := Checked.ap_eq_ok.mp hread
  obtain ⟨_, dependencies, hrest₂, -, rfl⟩ := Checked.ap_eq_ok.mp hrest₁
  obtain ⟨_, name, hmk, hname, rfl⟩ := Checked.ap_eq_ok.mp hrest₂
  cases hmk
  exact yields_nonEmptyText.required hname

/-- A named scope that is read has a name. -/
theorem yields_readScopeEntry : Yields readScopeEntry fun scope => scope.name ≠ "" := by
  refine yields_model fun fields scope hread => ?_
  obtain ⟨_, presentableName?, hrest₁, -, rfl⟩ := Checked.ap_eq_ok.mp hread
  obtain ⟨_, pattern?, hrest₂, -, rfl⟩ := Checked.ap_eq_ok.mp hrest₁
  obtain ⟨_, name, hmk, hname, rfl⟩ := Checked.ap_eq_ok.mp hrest₂
  cases hmk
  exact yields_nonEmptyText.required hname

/-- A holder that is read has a name, and its scopes have names. -/
theorem yields_readHolderEntry : Yields readHolderEntry Holder.Labelled := by
  refine yields_model fun fields holder hread => ?_
  obtain ⟨_, scopes, hrest₁, hscopes, rfl⟩ := Checked.ap_eq_ok.mp hread
  obtain ⟨_, id, hmk, hid, rfl⟩ := Checked.ap_eq_ok.mp hrest₁
  cases hmk
  exact ⟨yields_nonEmptyText.required hid,
    (yields_listOrNull yields_readScopeEntry).optional (by simp) hscopes⟩

/-- What a manifest keeps of modules and holders has names. -/
theorem yields_ofJson :
    Yields Manifest.ofJson fun m =>
      (∀ module ∈ m.modules, module.name ≠ "") ∧ ∀ holder ∈ m.holders, holder.Labelled := by
  refine yields_model fun fields m hread => ?_
  -- The fields are applied from the first to the last, so the last one is taken off first.
  obtain ⟨_, currentFile?, hrest₁, -, rfl⟩ := Checked.ap_eq_ok.mp hread
  obtain ⟨_, changedFiles, hrest₂, -, rfl⟩ := Checked.ap_eq_ok.mp hrest₁
  obtain ⟨_, recentFiles, hrest₃, -, rfl⟩ := Checked.ap_eq_ok.mp hrest₂
  obtain ⟨_, openFiles, hrest₄, -, rfl⟩ := Checked.ap_eq_ok.mp hrest₃
  obtain ⟨_, holders, hrest₅, hholders, rfl⟩ := Checked.ap_eq_ok.mp hrest₄
  obtain ⟨_, libraries, hrest₆, -, rfl⟩ := Checked.ap_eq_ok.mp hrest₅
  obtain ⟨_, files, hrest₇, -, rfl⟩ := Checked.ap_eq_ok.mp hrest₆
  obtain ⟨_, modules, hrest₈, hmodules, rfl⟩ := Checked.ap_eq_ok.mp hrest₇
  obtain ⟨_, root, hmk, -, rfl⟩ := Checked.ap_eq_ok.mp hrest₈
  cases hmk
  exact ⟨(yields_listOrNull (yields_bareOr yields_readModuleEntry)).optional (by simp) hmodules,
    (yields_listOrNull yields_readHolderEntry).optional (by simp) hholders⟩

end Manifest

/-! ## Workspaces of a manifest -/

/-- Adding modules by name makes up no module. -/
theorem mem_of_mem_distinctModules {modules : List Module} {m : Module}
    (h : m ∈ distinctModules modules) : m ∈ modules := by
  -- A module replaces the one of its name or goes behind the others.
  have hinsert {given : List Module} {added : Module} (h : m ∈ insertModule given added) :
      m ∈ given ∨ m = added := by
    unfold insertModule at h
    split at h
    · obtain ⟨other, hother, hm⟩ := List.mem_map.mp h
      split at hm
      · exact .inr hm.symm
      · exact .inl (hm ▸ hother)
    · simpa using h
  have hfold (added start : List Module) (h : m ∈ added.foldl insertModule start) :
      m ∈ start ∨ m ∈ added := by
    -- The modules are added one by one to those that were taken before.
    induction added generalizing start with
    | nil => exact .inl h
    | cons first rest ih =>
      rcases ih _ h with h | h
      · rcases hinsert h with h | rfl
        · exact .inl h
        · exact .inr List.mem_cons_self
      · exact .inr (List.mem_cons_of_mem first h)
  simpa using hfold modules [] h

namespace Workspace

variable {ws : Workspace}

/-- A workspace keeps the holders that it is built from, and of the modules those that no later one
replaces. -/
theorem labelled_of_ofFiles {files : List File} {modules : List Module} {holders : List Holder}
    (h : Workspace.ofFiles files modules holders = .ok ws) (hmodules : ∀ m ∈ modules, m.name ≠ "")
    (hholders : ∀ holder ∈ holders, holder.Labelled) : ws.Labelled := by
  unfold Workspace.ofFiles at h
  split at h
  · contradiction
  · cases h
    exact ⟨fun m hm => hmodules m (mem_of_mem_distinctModules hm), hholders⟩

/-- In a workspace that comes from a manifest everything that is named has a name. -/
theorem labelled_of_ofManifest {json : Json} (h : Workspace.ofManifest json = .ok ws) :
    ws.Labelled := by
  unfold Workspace.ofManifest at h
  split at h
  · contradiction
  next manifest hmanifest =>
    obtain ⟨hmodules, hholders⟩ := Manifest.yields_ofJson json manifest hmanifest
    unfold Manifest.toWorkspace at h
    cases hfiles : Workspace.ofFiles manifest.allFiles manifest.modules manifest.holders with
    | error e =>
      rw [hfiles] at h
      contradiction
    | ok built =>
      rw [hfiles] at h
      cases h
      -- What the editor shows does not change modules and holders.
      obtain ⟨hmodules, hholders⟩ := labelled_of_ofFiles hfiles hmodules hholders
      exact ⟨hmodules, hholders⟩

end Workspace

end ScopeAlgebra
