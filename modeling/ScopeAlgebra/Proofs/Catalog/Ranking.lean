import ScopeAlgebra.Engine.Intent
import Mathlib.Data.Prod.Lex
import Mathlib.Data.String.Basic

/-!
# Ranked items

Items are ranked by whether they need input, whether they are unstable and how their names read in
lower case, and equal ranks keep their order. A list that is ordered in this way is determined by
the items (`StablySorted.unique`), so it does not matter that `Item.ranked` finds it with a merge
sort (`stablySorted_ranked`).
-/

namespace ScopeAlgebra

section StablySorted

variable {α κ : Type} [LinearOrder κ] {key : α → κ} {xs ys zs : List α}

/-- A list holds the elements of another one, ordered by a key; elements of equal keys stand as they
stood there. -/
structure StablySorted (key : α → κ) (xs ys : List α) : Prop where
  perm : ys.Perm xs
  ordered : ys.Pairwise fun a b => key a ≤ key b
  stable : ∀ k, (ys.filter fun a => key a = k) = xs.filter fun a => key a = k

/-- Lists that agree on the elements of each key have the same elements. -/
theorem mem_iff_of_filter_key_eq
    (h : ∀ k, (ys.filter fun a => key a = k) = zs.filter fun a => key a = k) (a : α) :
    a ∈ ys ↔ a ∈ zs := by
  have ha : a ∈ (ys.filter fun b => key b = key a) ↔ a ∈ zs.filter fun b => key b = key a := by
    rw [h]
  simpa using ha

/-- The key of the first element of an ordered list is the least one. -/
theorem key_le_of_mem {y a : α} (hys : (y :: ys).Pairwise fun a b => key a ≤ key b)
    (ha : a ∈ y :: ys) : key y ≤ key a := by
  rcases List.mem_cons.mp ha with rfl | ha
  · exact le_rfl
  · exact List.rel_of_pairwise_cons hys ha

/-- Ordered lists are equal when they agree on the elements of each key: the least key comes first
in both. -/
theorem eq_of_filter_key_eq (hys : ys.Pairwise fun a b => key a ≤ key b)
    (hzs : zs.Pairwise fun a b => key a ≤ key b)
    (h : ∀ k, (ys.filter fun a => key a = k) = zs.filter fun a => key a = k) : ys = zs := by
  -- The heads have the least key of all, so they have the same key and are the first of that key in
  -- both lists.
  induction ys generalizing zs with
  | nil =>
    refine (List.eq_nil_iff_forall_not_mem.mpr fun a ha => ?_).symm
    exact List.not_mem_nil ((mem_iff_of_filter_key_eq h a).mpr ha)
  | cons y ys ih =>
    cases zs with
    | nil => exact absurd ((mem_iff_of_filter_key_eq h y).mp List.mem_cons_self) List.not_mem_nil
    | cons z zs =>
      have hkey : key z = key y := le_antisymm
        (key_le_of_mem hzs ((mem_iff_of_filter_key_eq h y).mp List.mem_cons_self))
        (key_le_of_mem hys ((mem_iff_of_filter_key_eq h z).mpr List.mem_cons_self))
      have hhead := h (key y)
      rw [List.filter_cons_of_pos (by simp), List.filter_cons_of_pos (by simpa using hkey)] at hhead
      obtain ⟨rfl, -⟩ := List.cons_eq_cons.mp hhead
      refine congrArg (y :: ·) (ih hys.of_cons hzs.of_cons fun k => ?_)
      have hk := h k
      rw [List.filter_cons, List.filter_cons] at hk
      split at hk
      · exact (List.cons_eq_cons.mp hk).2
      · exact hk

/-- There is only one way to sort a list stably. -/
theorem StablySorted.unique (hys : StablySorted key xs ys) (hzs : StablySorted key xs zs) :
    ys = zs :=
  eq_of_filter_key_eq hys.ordered hzs.ordered fun k => (hys.stable k).trans (hzs.stable k).symm

/-- A merge sort that compares keys is stable. -/
theorem stablySorted_mergeSort {le : α → α → Bool} (hle : ∀ a b, le a b = true ↔ key a ≤ key b)
    (xs : List α) : StablySorted key xs (xs.mergeSort le) := by
  have htrans (a b c : α) (hab : le a b = true) (hbc : le b c = true) : le a c = true :=
    (hle a c).mpr (((hle a b).mp hab).trans ((hle b c).mp hbc))
  have htotal (a b : α) : (le a b || le b a) = true := by
    rw [Bool.or_eq_true, hle, hle]
    exact le_total _ _
  have hperm : (xs.mergeSort le).Perm xs := List.mergeSort_perm xs le
  refine ⟨hperm, (List.pairwise_mergeSort htrans htotal xs).imp fun h => (hle _ _).mp h,
    fun k => ?_⟩
  -- Elements of one key are ordered as they stand, so they are a sublist of what is sorted.
  have hequal : (xs.filter fun a => key a = k).Pairwise fun a b => le a b = true :=
    List.pairwise_of_forall_mem_list fun a ha b hb => by
      rw [hle, of_decide_eq_true (List.mem_filter.mp ha).2,
        of_decide_eq_true (List.mem_filter.mp hb).2]
  have hsublist := (List.sublist_mergeSort htrans htotal hequal List.filter_sublist).filter fun a =>
    key a = k
  simp only [List.filter_filter, Bool.and_self] at hsublist
  exact (hsublist.eq_of_length (hperm.filter _).length_eq.symm).symm

end StablySorted

namespace Item

/-- The key by which items are ranked: those that need no input first, stable ones first, then by
lower-cased name. -/
def sortKey (item : Item) : Bool ×ₗ Bool ×ₗ String :=
  toLex (item.requiresInput, toLex (item.unstable, Text.lower item.displayName))

/-- Ranks are compared as the sort keys are: by the words in turn, the first difference deciding. -/
theorem rankLe_iff (a b : Item) : rankLe a.rank b.rank = true ↔ a.sortKey ≤ b.sortKey := by
  simp only [rankLe, Bool.or_eq_true, Bool.and_eq_true, decide_eq_true_eq]
  simp only [rank, sortKey, Prod.Lex.toLex_le_toLex]
  cases a.requiresInput <;> cases b.requiresInput <;> cases a.unstable <;> cases b.unstable <;> simp

/-- Items are ranked by merge sort. -/
theorem ranked_eq_mergeSort (items : List Item) :
    ranked items = items.mergeSort fun a b => rankLe a.rank b.rank := by
  rw [ranked, ← List.map_mergeSort (r := fun a b => rankLe a.rank b.rank) (fun _ _ _ _ => rfl),
    List.map_map]
  exact List.map_id _

/-- Ranking orders items by their keys and loses, repeats and swaps none. -/
theorem stablySorted_ranked (items : List Item) : StablySorted sortKey items (ranked items) := by
  rw [ranked_eq_mergeSort]
  exact stablySorted_mergeSort rankLe_iff items

end Item

end ScopeAlgebra
