import Mathlib.Data.List.Induction
import Mathlib.Data.List.Nodup
import ScopeAlgebra.Catalog.Registry

/-!
# Registered records

Registration makes up no record, loses no reference id and gives none twice, whichever record
survives a collision. Under each id it keeps the first or the last of the records that were given
with it (`get?_ofList`).
-/

namespace ScopeAlgebra

/-- What a collision leaves of all that share a reference id, in the order in which they are
registered. -/
def CollisionPolicy.survivor {α : Type} : CollisionPolicy → List α → Option α
  | .firstWins, given => given.head?
  | .lastWins, given => given.getLast?

namespace CollisionPolicy

variable {α β : Type} {policy : CollisionPolicy} {given : List α} {a : α}

/-- The survivor of a collision is chosen by its position alone. -/
theorem survivor_map (f : α → β) :
    policy.survivor (given.map f) = (policy.survivor given).map f := by
  cases policy <;> simp [survivor]

/-- One more is up against the survivor of those before it. -/
theorem survivor_append_singleton :
    policy.survivor (given ++ [a]) = policy.survivor ((policy.survivor given).toList ++ [a]) := by
  cases policy with
  | firstWins => cases given <;> rfl
  | lastWins => simp [survivor]

/-- The survivor is one of those that collide. -/
theorem mem_of_survivor (h : policy.survivor given = some a) : a ∈ given := by
  cases policy with
  | firstWins => exact List.mem_of_mem_head? h
  | lastWins => exact List.mem_of_getLast? h

/-- Some one of those that are given survives. -/
theorem exists_survivor (policy : CollisionPolicy) (h : a ∈ given) :
    ∃ b, policy.survivor given = some b := by
  have hne : given ≠ [] := List.ne_nil_of_mem h
  cases policy with
  | firstWins => exact ⟨_, List.head?_eq_some_head hne⟩
  | lastWins => exact ⟨_, List.getLast?_eq_some_getLast hne⟩

end CollisionPolicy

namespace Registry

variable {records : List Record} {refId : String} {r s : Record}

/-- What is found under a reference id is a record with that id. -/
theorem mem_of_get? (h : get? records refId = some r) : r ∈ records ∧ r.refId = refId :=
  ⟨List.mem_of_find?_eq_some h, by simpa using List.find?_some h⟩

/-- A record is found under an id exactly when some record has it. -/
theorem isSome_get?_iff : (get? records refId).isSome ↔ ∃ r ∈ records, r.refId = refId := by
  simp [get?]

/-- An id is taken exactly when some record has it. -/
theorem contains_iff : contains records refId = true ↔ ∃ r ∈ records, r.refId = refId := by
  simp [contains]

/-- Registering adds at most the one record. -/
theorem mem_of_mem_register {policy : CollisionPolicy} (h : s ∈ register policy records r) :
    s ∈ records ∨ s = r := by
  cases policy with
  | firstWins =>
    rw [register] at h
    split at h
    · exact .inl h
    · simpa using h
  | lastWins =>
    rcases List.mem_append.mp h with h | h
    · exact .inl (List.mem_filter.mp h).1
    · exact .inr (List.mem_singleton.mp h)

/-- After registering the ids that were taken are, and so is that of the new record. -/
theorem taken_register (policy : CollisionPolicy) :
    (∃ s ∈ register policy records r, s.refId = refId) ↔
      (∃ s ∈ records, s.refId = refId) ∨ r.refId = refId := by
  -- The first record keeps its place, while the last one takes that of all others with its id.
  cases policy with
  | firstWins =>
    rw [register]
    split
    next htaken =>
      refine ⟨.inl, fun h => h.elim id ?_⟩
      rintro rfl
      exact contains_iff.mp htaken
    · simp [or_and_right, exists_or]
  | lastWins =>
    constructor
    · rintro ⟨s, hs, rfl⟩
      rcases mem_of_mem_register hs with hs | rfl
      · exact .inl ⟨s, hs, rfl⟩
      · exact .inr rfl
    · by_cases hr : r.refId = refId
      · exact fun _ => ⟨r, by simp [register], hr⟩
      · rintro (⟨s, hs, rfl⟩ | h)
        · refine ⟨s, List.mem_append_left _ (List.mem_filter.mpr ⟨hs, ?_⟩), rfl⟩
          simpa using Ne.symm hr
        · contradiction

/-- The record that is given last is registered with all others. What one registration keeps,
registering records one after the other keeps by induction from behind. -/
theorem ofList_append_singleton (policy : CollisionPolicy) :
    ofList policy (records ++ [r]) = register policy (ofList policy records) r := by
  rw [ofList, List.foldl_append]
  rfl

/-- Every registered record was given. -/
theorem mem_of_mem_ofList {policy : CollisionPolicy} (h : s ∈ ofList policy records) :
    s ∈ records := by
  induction records using List.reverseRecOn with
  | nil => contradiction
  | append_singleton given r ih =>
    rw [ofList_append_singleton] at h
    rcases mem_of_mem_register h with h | rfl
    · exact List.mem_append_left _ (ih h)
    · exact List.mem_append_right _ List.mem_cons_self

/-- A reference id is taken exactly when it was given. -/
theorem isSome_get?_ofList (policy : CollisionPolicy) :
    (get? (ofList policy records) refId).isSome ↔ ∃ r ∈ records, r.refId = refId := by
  rw [isSome_get?_iff]
  -- Records are registered from the front, so the last one to come is the one at the end.
  induction records using List.reverseRecOn with
  | nil => rfl
  | append_singleton given r ih =>
    rw [ofList_append_singleton, taken_register, ih]
    simp [or_and_right, exists_or]

/-! ## Each id once -/

/-- Registering keeps reference ids distinct. -/
theorem nodup_register {policy : CollisionPolicy} (h : (records.map Record.refId).Nodup) :
    ((register policy records r).map Record.refId).Nodup := by
  -- Under either policy the new record stands behind records that do not have its id.
  have happend {others : List Record} (hothers : (others.map Record.refId).Nodup)
      (hr : ∀ s ∈ others, s.refId ≠ r.refId) : ((others ++ [r]).map Record.refId).Nodup := by
    rw [List.map_append, List.map_singleton]
    refine List.nodup_append.mpr ⟨hothers, List.nodup_singleton _, ?_⟩
    intro refId hrefId refId' hrefId'
    obtain ⟨s, hs, rfl⟩ := List.mem_map.mp hrefId
    rw [List.mem_singleton.mp hrefId']
    exact hr s hs
  cases policy with
  | firstWins =>
    rw [register]
    split
    · exact h
    next hfree =>
      refine happend h fun s hs hsame => hfree ?_
      exact contains_iff.mpr ⟨s, hs, hsame⟩
  | lastWins =>
    refine happend (h.sublist (List.filter_sublist.map _)) fun s hs => ?_
    simpa using (List.mem_filter.mp hs).2

/-- Registered records have distinct reference ids. -/
theorem nodup_ofList (policy : CollisionPolicy) :
    ((ofList policy records).map Record.refId).Nodup := by
  induction records using List.reverseRecOn with
  | nil => exact List.nodup_nil
  | append_singleton given r ih =>
    rw [ofList_append_singleton]
    exact nodup_register ih

/-- Where reference ids are distinct, a record is found under its own. -/
theorem get?_of_mem (h : (records.map Record.refId).Nodup) (hr : r ∈ records) :
    get? records r.refId = some r := by
  obtain ⟨s, hs⟩ := Option.isSome_iff_exists.mp (isSome_get?_iff.mpr ⟨r, hr, rfl⟩)
  obtain ⟨hmem, hsame⟩ := mem_of_get? hs
  obtain rfl : s = r := List.inj_on_of_nodup_map h hmem hr hsame
  exact hs

/-! ## Leaving ids out -/

/-- Some ids can be left out before a record is registered as well as after: records of other ids
neither replace one of these nor keep one from being registered. -/
theorem filter_register (policy : CollisionPolicy) (keep : String → Bool) :
    (register policy records r).filter (fun s => keep s.refId) =
      if keep r.refId then register policy (records.filter fun s => keep s.refId) r
      else records.filter fun s => keep s.refId := by
  have hlast : [r].filter (fun s => keep s.refId) = if keep r.refId then [r] else [] := by
    rw [List.filter_singleton, Bool.cond_eq_ite]
  cases policy with
  | firstWins =>
    have htaken (hr : keep r.refId = true) :
        contains (records.filter fun s => keep s.refId) r.refId = contains records r.refId := by
      rw [Bool.eq_iff_iff, contains_iff, contains_iff]
      constructor
      · rintro ⟨s, hs, hsame⟩
        exact ⟨s, List.mem_of_mem_filter hs, hsame⟩
      · rintro ⟨s, hs, hsame⟩
        exact ⟨s, List.mem_filter.mpr ⟨hs, hsame ▸ hr⟩, hsame⟩
    by_cases hr : keep r.refId = true
    · rw [if_pos hr, register, register, htaken hr, apply_ite (List.filter _), List.filter_append,
        hlast, if_pos hr]
    · rw [if_neg hr, register, apply_ite (List.filter _), List.filter_append, hlast, if_neg hr,
        List.append_nil, ite_self]
  | lastWins =>
    rw [register, List.filter_append, hlast]
    by_cases hr : keep r.refId = true
    · rw [if_pos hr, if_pos hr, register, List.filter_filter, List.filter_filter]
      simp only [Bool.and_comm]
    · rw [if_neg hr, if_neg hr, List.append_nil, List.filter_filter]
      refine List.filter_congr fun s _ => ?_
      -- What is kept does not have the id of the new record.
      by_cases hs : s.refId = r.refId
      · simp [hs, hr]
      · simp [hs]

/-- Leaving ids out of what is registered leaves what would be registered without them. -/
theorem filter_ofList (policy : CollisionPolicy) (keep : String → Bool) :
    (ofList policy records).filter (fun s => keep s.refId) =
      ofList policy (records.filter fun s => keep s.refId) := by
  induction records using List.reverseRecOn with
  | nil => rfl
  | append_singleton given r ih =>
    rw [ofList_append_singleton, filter_register, ih, List.filter_append, List.filter_cons,
      List.filter_nil]
    split
    · rw [ofList_append_singleton]
    · rw [List.append_nil]

/-! ## The record that survives -/

/-- The records that are given with a reference id, in order. -/
def sharing (records : List Record) (refId : String) : List Record :=
  records.filter fun r => decide (r.refId = refId)

/-- The records of an id are those in front and those behind, in order. -/
theorem sharing_append (more : List Record) :
    sharing (records ++ more) refId = sharing records refId ++ sharing more refId :=
  List.filter_append ..

/-- The records of an id are all records that have it. -/
theorem mem_sharing : r ∈ sharing records refId ↔ r ∈ records ∧ r.refId = refId := by simp [sharing]

/-- A record at the end is found when none in front of it has its id. -/
theorem get?_append_singleton :
    get? (records ++ [r]) refId =
      (get? records refId).or (if r.refId = refId then some r else none) := by
  have hlast : get? [r] refId = if r.refId = refId then some r else none := by
    by_cases hr : r.refId = refId <;> simp [get?, hr]
  rw [← hlast]
  exact List.find?_append

/-- Taking away the record with one id leaves all others to be found. -/
theorem get?_filter_ne {gone : String} :
    get? (records.filter fun s => decide (s.refId ≠ gone)) refId =
      if gone = refId then none else get? records refId := by
  rw [get?, List.find?_filter]
  split
  next hgone =>
    subst hgone
    refine List.find?_eq_none.mpr fun s _ => ?_
    by_cases hs : s.refId = gone <;> simp [hs]
  next hgone =>
    refine congrArg (List.find? · records) (funext fun s => ?_)
    by_cases hs : s.refId = refId
    · simp [hs, Ne.symm hgone]
    · simp [hs]

/-- A record that is registered is up against the one that has its id, and other ids keep their
records. -/
theorem get?_register (policy : CollisionPolicy) :
    get? (register policy records r) refId =
    if r.refId = refId then policy.survivor ((get? records refId).toList ++ [r])
      else get? records refId := by
  -- Where the first record wins, the new one only comes in when its id is free; where the last one
  -- wins, it stands alone for its id.
  cases policy with
  | firstWins =>
    rw [register]
    split
    next htaken =>
      split
      next hr =>
        subst hr
        obtain ⟨s, hs⟩ := Option.isSome_iff_exists.mp (isSome_get?_iff.mpr (contains_iff.mp htaken))
        rw [hs]
        rfl
      · rfl
    next hfree =>
      rw [get?_append_singleton]
      split
      next hr =>
        have hnone : get? records refId = none := by
          rw [← Option.not_isSome_iff_eq_none, isSome_get?_iff, ← hr]
          exact fun h => hfree (contains_iff.mpr h)
        rw [hnone]
        rfl
      · exact Option.or_none
  | lastWins =>
    rw [register, get?_append_singleton, get?_filter_ne]
    split
    · simp [CollisionPolicy.survivor]
    · exact Option.or_none

/-- Under a reference id stands what a collision leaves of the records that were given with it. -/
theorem get?_ofList (policy : CollisionPolicy) :
    get? (ofList policy records) refId = policy.survivor (sharing records refId) := by
  induction records using List.reverseRecOn with
  | nil => cases policy <;> rfl
  | append_singleton given r ih =>
    rw [ofList_append_singleton, get?_register, ih, sharing_append]
    split
    next hr =>
      have hlast : sharing [r] refId = [r] := by simp [sharing, hr]
      rw [hlast]
      exact CollisionPolicy.survivor_append_singleton.symm
    next hr =>
      have hlast : sharing [r] refId = [] := by simp [sharing, hr]
      rw [hlast, List.append_nil]

end Registry

end ScopeAlgebra
