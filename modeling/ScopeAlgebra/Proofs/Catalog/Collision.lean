import ScopeAlgebra.Proofs.Catalog.Registry

/-!
# What collisions leave

A whole registry under either policy: the records that stay and the order they stand in. Both are
told by positions among the records that were given (`unrivalled`). A record stays under one policy
when none before it has its id, and under the other when none behind it does, and those that stay
keep the order of their positions. Each registration is followed on both sides. The policies are
mirror images, since a record that is registered before all others is to the first one what a record
that is registered after all others is to the last one (`ofList_firstWins_cons`,
`ofList_lastWins_append_singleton`).
-/

namespace ScopeAlgebra.Registry

variable {given : List Record} {r : Record} {rivals rivals' : Nat → List Record}

/-! ## Records without rivals -/

/-- The records that share their reference id with none of the rivals at their position, in
order. -/
def unrivalled (records : List Record) (rivals : Nat → List Record) : List Record :=
  (records.zipIdx.filter fun (r, i) => decide (∀ s ∈ rivals i, s.refId ≠ r.refId)).map Prod.fst

/-- A record at the end stays when no rival at its position has its id. -/
theorem unrivalled_append_singleton :
    unrivalled (given ++ [r]) rivals =
      unrivalled given rivals ++
        if ∀ s ∈ rivals given.length, s.refId ≠ r.refId then [r] else [] := by
  rw [unrivalled, List.zipIdx_append, List.filter_append, List.map_append,
    List.zipIdx_singleton, Nat.zero_add, List.filter_singleton, Bool.cond_decide,
    apply_ite (List.map Prod.fst)]
  rfl

/-- Only the rivals at the positions of records count. -/
theorem unrivalled_congr (h : ∀ i < given.length, rivals i = rivals' i) :
    unrivalled given rivals = unrivalled given rivals' := by
  refine congrArg (List.map Prod.fst) (List.filter_congr ?_)
  rintro ⟨s, i⟩ hmem
  have hi : i < given.length := List.snd_lt_of_mem_zipIdx hmem
  simp only [h i hi]

/-- One more rival of all records takes those with its id away. -/
theorem unrivalled_rival :
    unrivalled given (fun i => rivals i ++ [r]) =
      (unrivalled given rivals).filter fun s => decide (s.refId ≠ r.refId) := by
  rw [unrivalled, unrivalled, List.filter_map, List.filter_filter]
  refine congrArg (List.map Prod.fst) (List.filter_congr ?_)
  rintro ⟨s, i⟩ -
  rw [Bool.eq_iff_iff]
  simp [or_imp, forall_and, and_comm, ne_comm]

/-! ## One registration -/

/-- Where the first record wins, one more is added when no record before it has its id. -/
theorem ofList_firstWins_append_singleton :
    ofList .firstWins (given ++ [r]) =
      ofList .firstWins given ++ if ∀ s ∈ given, s.refId ≠ r.refId then [r] else [] := by
  have htaken : contains (ofList .firstWins given) r.refId = true ↔ ¬ ∀ s ∈ given,
      s.refId ≠ r.refId := by
    rw [contains_iff, ← isSome_get?_iff, isSome_get?_ofList]
    simp
  rw [ofList_append_singleton, register]
  by_cases hfree : ∀ s ∈ given, s.refId ≠ r.refId
  · rw [if_neg (mt htaken.mp (not_not_intro hfree)), if_pos hfree]
  · rw [if_pos (htaken.mpr hfree), if_neg hfree, List.append_nil]

/-- Where the last record wins, one more is added in place of all that have its id. -/
theorem ofList_lastWins_append_singleton :
    ofList .lastWins (given ++ [r]) =
      (ofList .lastWins given).filter (fun s => decide (s.refId ≠ r.refId)) ++ [r] := by
  rw [ofList_append_singleton, register]

/-- A record that is registered before all others is the first, and takes all of its id away. -/
theorem ofList_firstWins_cons :
    ofList .firstWins (r :: given) =
      r :: (ofList .firstWins given).filter fun s => decide (s.refId ≠ r.refId) := by
  induction given using List.reverseRecOn with
  | nil => rfl
  | append_singleton given s ih =>
    rw [← List.cons_append, ofList_firstWins_append_singleton, ih,
      ofList_firstWins_append_singleton, List.filter_append, List.cons_append]
    -- A record behind these two stays where neither the first nor one between has its id.
    by_cases hs : s.refId = r.refId
    · rw [if_neg fun hfree => hfree r List.mem_cons_self hs.symm]
      split
      · simp [hs]
      · rfl
    · have hfree : (∀ t ∈ r :: given, t.refId ≠ s.refId) ↔ ∀ t ∈ given, t.refId ≠ s.refId := by
        rw [List.forall_mem_cons]
        exact and_iff_right (Ne.symm hs)
      rw [if_congr hfree rfl rfl]
      split
      · simp [hs]
      · rfl

/-! ## All registrations -/

/-- Where the first record wins, the registry holds the records that come before all others of their
id. -/
theorem ofList_firstWins_eq (records : List Record) :
    ofList .firstWins records = unrivalled records fun i => records.take i := by
  -- From the end, as the records are registered; the positions of those before do not change.
  induction records using List.reverseRecOn with
  | nil => rfl
  | append_singleton given r ih =>
    have hbefore : ∀ i < given.length, (given ++ [r]).take i = given.take i := fun i hi =>
      List.take_append_of_le_length (Nat.le_of_lt hi)
    rw [ofList_firstWins_append_singleton, ih, unrivalled_append_singleton,
      unrivalled_congr hbefore, List.take_left]

/-- Where the last record wins, the registry holds the records that come behind all others of their
id. -/
theorem ofList_lastWins_eq (records : List Record) :
    ofList .lastWins records = unrivalled records fun i => records.drop (i + 1) := by
  -- One more record at the end is a new rival to every position before it.
  induction records using List.reverseRecOn with
  | nil => rfl
  | append_singleton given r ih =>
    have hbehind : ∀ i < given.length, (given ++ [r]).drop (i + 1) = given.drop (i + 1) ++ [r] :=
      fun i hi => List.drop_append_of_le_length hi
    have hnone : (given ++ [r]).drop (given.length + 1) = [] := List.drop_eq_nil_of_le (by simp)
    rw [ofList_lastWins_append_singleton, ih, unrivalled_append_singleton, unrivalled_congr hbehind,
      unrivalled_rival, hnone, if_pos (by simp)]

/-- The last records of a sequence are the first ones of the reversed sequence, reversed. -/
theorem ofList_lastWins_eq_reverse (records : List Record) :
    ofList .lastWins records = (ofList .firstWins records.reverse).reverse := by
  -- The last record to be registered is the first one of the reversed sequence.
  induction records using List.reverseRecOn with
  | nil => rfl
  | append_singleton given r ih =>
    rw [ofList_lastWins_append_singleton, ih, List.reverse_concat, ofList_firstWins_cons,
      List.reverse_cons, List.filter_reverse]

/-- Under either policy the registry holds each reference id that was given once, and no other. -/
theorem count_refId_ofList (policy : CollisionPolicy) (records : List Record) (refId : String) :
    ((ofList policy records).map Record.refId).count refId =
      if refId ∈ records.map Record.refId then 1 else 0 := by
  have htaken : refId ∈ (ofList policy records).map Record.refId ↔
      refId ∈ records.map Record.refId := by
    rw [List.mem_map, List.mem_map, ← isSome_get?_iff, isSome_get?_ofList]
  rw [(nodup_ofList policy).count, if_congr htaken rfl rfl]

/-- The two policies are mirror images. Where the first record wins, a registry holds the records
that none before them shares an id with, and where the last one wins, those that none behind them
does, both in the order of their positions. The one is the other on the reversed sequence, reversed,
and both hold each id that was given exactly once. -/
theorem ofList_mirrored (records : List Record) :
    ofList .firstWins records = unrivalled records (fun i => records.take i) ∧
      ofList .lastWins records = unrivalled records (fun i => records.drop (i + 1)) ∧
      ofList .lastWins records = (ofList .firstWins records.reverse).reverse ∧
      ∀ policy refId, ((ofList policy records).map Record.refId).count refId =
        if refId ∈ records.map Record.refId then 1 else 0 :=
  ⟨ofList_firstWins_eq records, ofList_lastWins_eq records, ofList_lastWins_eq_reverse records,
    fun policy refId => count_refId_ofList policy records refId⟩

end ScopeAlgebra.Registry
