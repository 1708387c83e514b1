import Mathlib.Data.Finset.Insert
import ScopeAlgebra.Json.Basic
import ScopeAlgebra.Proofs.Noted

/-!
# Merging diagnostics

Dropping repetitions can be done text by text, and on a part of a list before it is done on the
whole. So merging groups of diagnostics keeps each text once, in the order of first appearance, it
does not matter in which stages the groups are merged, and merging in what is there already changes
nothing (`mergeDiagnostics_laws`).
-/

namespace ScopeAlgebra

/-! ## Dropping repetitions -/

section EraseDups

variable {α : Type} [DecidableEq α]

/-- One more element is kept when it is new. -/
theorem eraseDups_concat (xs : List α) (x : α) :
    (xs ++ [x]).eraseDups = if x ∈ xs then xs.eraseDups else xs.eraseDups ++ [x] := by
  rw [List.eraseDups_append, List.cons_removeAll, List.nil_removeAll]
  by_cases hx : x ∈ xs
  · simp [hx]
  · simp [hx, List.eraseDups_cons]

/-- Repetitions may be dropped from the first part of a list before the whole. -/
theorem eraseDups_eraseDups_append (xs ys : List α) :
    (xs.eraseDups ++ ys).eraseDups = (xs ++ ys).eraseDups := by
  -- From the end: the last text is dropped or kept by what is in front of it, and that has the same
  -- members.
  induction ys using List.reverseRecOn with
  | nil =>
    rw [List.append_nil, List.append_nil]
    exact eraseDups_eq_self_iff.mpr (nodup_eraseDups xs)
  | append_singleton ys y ih =>
    rw [← List.append_assoc, ← List.append_assoc, eraseDups_concat, eraseDups_concat, ih]
    simp only [List.mem_append, List.mem_eraseDups]

/-- Repetitions may be dropped from the second part of a list before the whole. -/
theorem eraseDups_append_eraseDups (xs ys : List α) :
    (xs ++ ys.eraseDups).eraseDups = (xs ++ ys).eraseDups := by
  induction ys using List.reverseRecOn with
  | nil => rfl
  | append_singleton ys y ih =>
    rw [← List.append_assoc, eraseDups_concat ys, eraseDups_concat (xs ++ ys), ← ih]
    by_cases hy : y ∈ ys
    · rw [if_pos hy, if_pos (List.mem_append_right xs hy)]
    · rw [if_neg hy, ← List.append_assoc, eraseDups_concat]
      simp only [List.mem_append, List.mem_eraseDups]

/-- Elements that are there already are dropped. -/
theorem eraseDups_append_of_subset {xs ys : List α} (h : ∀ y ∈ ys, y ∈ xs) :
    (xs ++ ys).eraseDups = xs.eraseDups := by
  induction ys using List.reverseRecOn with
  | nil => rw [List.append_nil]
  | append_singleton ys y ih =>
    obtain ⟨hys, hy⟩ : (∀ z ∈ ys, z ∈ xs) ∧ y ∈ xs := by simpa [or_imp, forall_and] using h
    rw [← List.append_assoc, eraseDups_concat, if_pos (List.mem_append_left ys hy), ih hys]

/-- What is left stands in the order of first appearance. -/
theorem pairwise_idxOf_eraseDups (xs : List α) :
    xs.eraseDups.Pairwise fun x y => xs.idxOf x < xs.idxOf y := by
  -- The invariant is that a kept text still appears first where it did, so one more text at the end
  -- disturbs nothing.
  induction xs using List.reverseRecOn with
  | nil => simp
  | append_singleton xs x ih =>
    have hold {y : α} (hy : y ∈ xs.eraseDups) : (xs ++ [x]).idxOf y = xs.idxOf y := by
      rw [List.idxOf_append, if_pos (List.mem_eraseDups.mp hy)]
    have hpairwise : xs.eraseDups.Pairwise fun y z =>
        (xs ++ [x]).idxOf y < (xs ++ [x]).idxOf z := by
      refine ih.imp_of_mem fun hy hz hlt => ?_
      rwa [hold hy, hold hz]
    rw [eraseDups_concat]
    split
    · exact hpairwise
    next hx =>
      refine List.pairwise_append.mpr ⟨hpairwise, List.pairwise_singleton _ _, fun y hy z hz => ?_⟩
      obtain rfl := List.mem_singleton.mp hz
      have hlt := List.idxOf_lt_length_of_mem (List.mem_eraseDups.mp hy)
      rw [hold hy, List.idxOf_append, if_neg hx]
      omega

/-- A fold that keeps an element exactly when it has not kept it before drops repetitions. -/
theorem foldl_eq_eraseDups {σ : Type} {step : σ → α → σ} (kept : σ → List α)
    (hstep : ∀ s x, kept (step s x) = if x ∈ kept s then kept s else kept s ++ [x]) {s : σ}
    (hs : kept s = []) (xs : List α) : kept (xs.foldl step s) = xs.eraseDups := by
  induction xs using List.reverseRecOn with
  | nil => exact hs
  | append_singleton xs x ih =>
    rw [List.foldl_append, List.foldl_cons, List.foldl_nil, hstep, ih, eraseDups_concat]
    simp only [List.mem_eraseDups]

end EraseDups

/-! ## Text by text -/

/-- Texts gathered one by one: those that are kept, in order, beside the set of those that were
seen. -/
structure Gathered where
  kept : Diagnostics
  seen : Finset String
  mem_seen : ∀ text, text ∈ seen ↔ text ∈ kept

namespace Gathered

/-- Nothing gathered yet. -/
def empty : Gathered := ⟨[], ∅, by simp⟩

/-- Keeps one more text unless it was seen. -/
def add (g : Gathered) (text : String) : Gathered :=
  if text ∈ g.seen then g
  else ⟨g.kept ++ [text], insert text g.seen, by simp [g.mem_seen, or_comm]⟩

/-- Gathers the texts of all groups. -/
def ofGroups (groups : List Diagnostics) : Gathered :=
  groups.foldl (fun g group => group.foldl add g) empty

/-- A text is kept at the end unless it is there. -/
theorem kept_add (g : Gathered) (text : String) :
    (g.add text).kept = if text ∈ g.kept then g.kept else g.kept ++ [text] := by
  simp only [add, g.mem_seen]
  split <;> rfl

/-- Gathering keeps what merging keeps. -/
theorem kept_ofGroups (groups : List Diagnostics) :
    (ofGroups groups).kept = mergeDiagnostics groups := by
  rw [ofGroups, ← List.foldl_flatten, mergeDiagnostics]
  exact foldl_eq_eraseDups kept kept_add rfl groups.flatten

end Gathered

/-- The names of an object into which each text was put as a name, one after the other. -/
def namesOf (texts : List String) : List String :=
  (texts.foldl (fun fields text => Json.Fields.put fields text .null) []).map Prod.fst

/-- Putting a field into an object adds its name at the end unless it is there. -/
theorem names_put (fields : Json.Fields) (name : String) (value : Json) :
    (fields.put name value).map Prod.fst =
      if name ∈ fields.map Prod.fst then fields.map Prod.fst
        else fields.map Prod.fst ++ [name] := by
  have hany : fields.any (·.1 = name) = true ↔ name ∈ fields.map Prod.fst := by
    simp [List.any_eq_true, List.mem_map]
  rw [Json.Fields.put]
  by_cases hname : name ∈ fields.map Prod.fst
  · have hkeeps (field : String × Json) :
        (if field.1 = name then (name, value) else field).1 = field.1 := by
      split
      next heq => exact heq.symm
      · rfl
    rw [if_pos hname, if_pos (hany.mpr hname), List.map_map]
    exact List.map_congr_left fun field _ => hkeeps field
  · rw [if_neg hname, if_neg (hany.not.mpr hname), List.map_append]
    rfl

/-- An object has the names that were put into it, each once. -/
theorem namesOf_eq (texts : List String) : namesOf texts = texts.eraseDups :=
  foldl_eq_eraseDups (List.map Prod.fst) (fun fields text => names_put fields text .null) rfl texts

/-! ## Merging -/

/-- Each text of a group is kept once, and nothing else. -/
theorem count_mergeDiagnostics (groups : List Diagnostics) (text : String) :
    (mergeDiagnostics groups).count text = if ∃ group ∈ groups, text ∈ group then 1 else 0 := by
  have hmem : text ∈ mergeDiagnostics groups ↔ ∃ group ∈ groups, text ∈ group := by
    rw [mergeDiagnostics, List.mem_eraseDups, List.mem_flatten]
  rw [← if_congr hmem rfl rfl, mergeDiagnostics, (nodup_eraseDups _).count]

/-- Groups may be merged in stages. -/
theorem mergeDiagnostics_nested (before groups after : List Diagnostics) :
    mergeDiagnostics (before ++ mergeDiagnostics groups :: after) =
      mergeDiagnostics (before ++ groups ++ after) := by
  simp only [mergeDiagnostics, List.flatten_append, List.flatten_cons]
  rw [← List.append_assoc, ← eraseDups_eraseDups_append, eraseDups_append_eraseDups,
    eraseDups_eraseDups_append]

/-- Merging diagnostics is an idempotent monoid. Every text of a group is kept once, in the order of
first appearance, as it is by gathering the texts beside the set of those seen and as names of an
object; merging is associative, nothing is its unit, and merging in texts that are there already
changes nothing. -/
theorem mergeDiagnostics_laws (groups : List Diagnostics) (a b c : Diagnostics) :
    ((∀ text, (mergeDiagnostics groups).count text =
          if ∃ group ∈ groups, text ∈ group then 1 else 0) ∧
        (mergeDiagnostics groups).Pairwise
          (fun s t => groups.flatten.idxOf s < groups.flatten.idxOf t) ∧
        mergeDiagnostics groups = (Gathered.ofGroups groups).kept ∧
        mergeDiagnostics groups = namesOf groups.flatten) ∧
      (mergeDiagnostics [mergeDiagnostics [a, b], c] = mergeDiagnostics [a, b, c] ∧
        mergeDiagnostics [a, mergeDiagnostics [b, c]] = mergeDiagnostics [a, b, c]) ∧
      (mergeDiagnostics [[], a] = mergeDiagnostics [a] ∧
        mergeDiagnostics [a, []] = mergeDiagnostics [a]) ∧
      mergeDiagnostics [a, a] = mergeDiagnostics [a] ∧
      ((∀ text ∈ b, text ∈ a) → mergeDiagnostics [a, b] = mergeDiagnostics [a]) := by
  have habsorbed {b : Diagnostics} (h : ∀ text ∈ b, text ∈ a) :
      mergeDiagnostics [a, b] = mergeDiagnostics [a] := by
    simpa [mergeDiagnostics] using eraseDups_append_of_subset h
  refine ⟨⟨count_mergeDiagnostics groups, pairwise_idxOf_eraseDups _,
    (Gathered.kept_ofGroups groups).symm, (namesOf_eq _).symm⟩, ⟨?_, ?_⟩,
    ⟨rfl, habsorbed (by simp)⟩, habsorbed fun _ h => h, habsorbed⟩
  -- Merging groups first is merging them in place, whatever stands around them.
  · exact mergeDiagnostics_nested [] [a, b] [c]
  · exact mergeDiagnostics_nested [a] [b, c] []

/-- A text that stands in both groups is kept where it stands in the first. -/
theorem mergeDiagnostics_known : (∀ text ∈ ["x", "y", "x"], text ∈ ["y", "z", "x"]) ∧
    mergeDiagnostics [["y", "z", "x"], ["x", "y", "x"]] = mergeDiagnostics [["y", "z", "x"]] :=
  ⟨by decide, (mergeDiagnostics_laws [] ["y", "z", "x"] ["x", "y", "x"] []).2.2.2.2 (by decide)⟩

end ScopeAlgebra
