import ScopeAlgebra.Proofs.Pattern.Parser

/-!
# Canonical patterns

The patterns that texts are read as: no negation stands directly under a negation, and no
conjunction or disjunction under one of its own sort. `Derives.canonical` says that a derivation
stands for such a pattern, whatever nesting its text has.
-/

namespace ScopeAlgebra

/-- A module as a term can name it: not blank, trimmed and without a closing bracket. -/
structure CleanModule (m : List Char) : Prop where
  not_blank : ¬ Text.Blanks m
  trimmed : Text.trimChars m = m
  within : ']' ∉ m

/-- A term as a text can write it. -/
structure Term.Clean (t : Term) : Prop where
  module_clean : ∀ m, t.module? = some m → CleanModule m.toList
  glob_ne_nil : t.glob.toList ≠ []
  glob_within : ∀ c ∈ t.glob.toList, c ∉ Pattern.globStops

namespace Pattern

/-- A pattern has clean terms, no negation directly under a negation, and conjunctions and
disjunctions of two or more operands of another sort. -/
inductive Canonical : Pattern → Prop where
  | term {t : Term} (ht : t.Clean) : Canonical (.term t)
  | negation {p : Pattern} (hp : Canonical p) (hflat : ∀ q, p ≠ .negation q) :
    Canonical (.negation p)
  | conjunction {ps : List Pattern} (hps : ∀ p ∈ ps, Canonical p) (hlength : 2 ≤ ps.length)
    (hflat : ∀ p ∈ ps, ∀ qs, p ≠ .conjunction qs) : Canonical (.conjunction ps)
  | disjunction {ps : List Pattern} (hps : ∀ p ∈ ps, Canonical p) (hlength : 2 ≤ ps.length)
    (hflat : ∀ p ∈ ps, ∀ qs, p ≠ .disjunction qs) : Canonical (.disjunction ps)

/-- A term without a module is canonical when its glob, tested character by character, is one. -/
theorem canonical_plain {kind : TermKind} {glob : String} (hne : glob.toList ≠ [])
    (hglob : glob.toList.all (!endsGlob ·) = true) : Canonical (.term ⟨kind, none, glob⟩) :=
  .term ⟨by simp, hne, not_mem_globStops_of_all hglob⟩

/-! ## Operators and their operands -/

/-- The pattern that an operator makes of its operands. -/
def Operator.node : Operator → List Pattern → Pattern
  | .or => .disjunction
  | .and => .conjunction

/-- The operands that a pattern contributes to a chain of an operator. -/
def Operator.operands : Operator → Pattern → List Pattern
  | .or => alternatives
  | .and => factors

variable {p q : Pattern} {ps : List Pattern}

/-- Joined patterns are one chain of what each contributes. -/
theorem Operator.join_eq_node (o : Operator) (p q : Pattern) :
    o.join p q = o.node (o.operands p ++ o.operands q) := by
  cases o <;> rfl

/-- A pattern of the operator's own sort contributes its operands. -/
theorem Operator.operands_node (o : Operator) (ps : List Pattern) :
    o.operands (o.node ps) = ps := by
  cases o <;> rfl

/-- A pattern of another sort contributes itself. -/
theorem Operator.operands_of_flat {o : Operator} (h : ∀ qs, p ≠ o.node qs) :
    o.operands p = [p] := by
  cases o with
  | or =>
    cases p with
    | disjunction qs => exact absurd rfl (h qs)
    | _ => rfl
  | and =>
    cases p with
    | conjunction qs => exact absurd rfl (h qs)
    | _ => rfl

/-- Canonical operands of another sort make a canonical chain when there are at least two. -/
theorem canonical_node {o : Operator} (hps : ∀ p ∈ ps, Canonical p) (hlength : 2 ≤ ps.length)
    (hflat : ∀ p ∈ ps, ∀ qs, p ≠ o.node qs) : Canonical (o.node ps) := by
  cases o with
  | or => exact .disjunction hps hlength hflat
  | and => exact .conjunction hps hlength hflat

/-- The operands of a canonical chain are canonical and of another sort, and there are at least
two. -/
theorem Canonical.of_node {o : Operator} (h : Canonical (o.node ps)) :
    2 ≤ ps.length ∧ ∀ p ∈ ps, Canonical p ∧ ∀ qs, p ≠ o.node qs := by
  cases o with
  | or =>
    cases h with
    | disjunction hps hlength hflat => exact ⟨hlength, fun p hp => ⟨hps p hp, hflat p hp⟩⟩
  | and =>
    cases h with
    | conjunction hps hlength hflat => exact ⟨hlength, fun p hp => ⟨hps p hp, hflat p hp⟩⟩

/-- What a canonical pattern contributes to a chain is canonical, of another sort and not empty. -/
theorem Canonical.operands (hp : Canonical p) (o : Operator) :
    0 < (o.operands p).length ∧ ∀ q ∈ o.operands p, Canonical q ∧ ∀ qs, q ≠ o.node qs := by
  -- A pattern of the operator's own sort contributes its operands, any other one itself.
  by_cases hnode : ∃ qs, p = o.node qs
  · obtain ⟨qs, rfl⟩ := hnode
    obtain ⟨hlength, hqs⟩ := hp.of_node
    rw [o.operands_node]
    exact ⟨Nat.lt_of_lt_of_le Nat.zero_lt_two hlength, hqs⟩
  · have hflat : ∀ qs, p ≠ o.node qs := fun qs h => hnode ⟨qs, h⟩
    rw [Operator.operands_of_flat hflat]
    refine ⟨Nat.one_pos, fun q hq => ?_⟩
    obtain rfl := List.mem_singleton.mp hq
    exact ⟨hp, hflat⟩

/-! ## What is read is canonical -/

/-- Joining canonical patterns keeps them canonical. -/
theorem Canonical.join (o : Operator) (hp : Canonical p) (hq : Canonical q) :
    Canonical (o.join p q) := by
  obtain ⟨hlengthp, hps⟩ := hp.operands o
  obtain ⟨hlengthq, hqs⟩ := hq.operands o
  have hboth : ∀ r ∈ o.operands p ++ o.operands q, Canonical r ∧ ∀ rs, r ≠ o.node rs := fun r hr =>
    (List.mem_append.mp hr).elim (hps r) (hqs r)
  rw [o.join_eq_node]
  refine canonical_node (fun r hr => (hboth r hr).1) ?_ (fun r hr => (hboth r hr).2)
  rw [List.length_append]
  omega

/-- The negation of a canonical pattern is canonical. -/
theorem Canonical.negate (hp : Canonical p) : Canonical p.negate := by
  cases hp with
  | term ht => exact .negation (.term ht) (by simp)
  | negation hp hflat => exact hp
  | conjunction hps hlength hflat => exact .negation (.conjunction hps hlength hflat) (by simp)
  | disjunction hps hlength hflat => exact .negation (.disjunction hps hlength hflat) (by simp)

variable {n : Category} {s t : List Char} {d : Phrase}

/-- A term that was read is clean. -/
theorem DerivesTerm.canonical (h : DerivesTerm s d t) : Canonical d.toPattern := by
  cases h with
  | anywhere hglob =>
    refine .term ⟨by simp, ?_, ?_⟩
    · simpa using hglob.ne_nil
    · simpa using hglob.within
  | @inModule kind m glob rest hm hblank hglob =>
    have hclean : CleanModule (Text.trimChars m) := by
      -- Trimming leaves a module that is not blank, and trimmed it stays.
      refine ⟨fun hw => hblank ?_, Text.trimChars_trimChars m,
        fun hmem => hm (Text.mem_of_mem_trimChars hmem)⟩
      rw [← Text.trimChars_eq_nil_iff, Text.trimChars_trimChars] at hw
      exact Text.trimChars_eq_nil_iff.mp hw
    refine .term ⟨?_, ?_, ?_⟩
    · rintro m' ⟨⟩
      simpa using hclean
    · simpa using hglob.ne_nil
    · simpa using hglob.within

/-- What is derived stands for a canonical pattern. -/
theorem Derives.canonical (h : Derives n s d t) : Canonical d.toPattern := by
  -- The induction is along the derivation: joining and negating keep patterns canonical.
  induction h with
  | single _ ih => exact ih
  | more _ _ _ ihleft ihright => exact ihleft.join _ ihright
  | negation _ _ ih => exact ih.negate
  | group _ _ _ ih => exact ih
  | term _ hterm => exact hterm.canonical

end Pattern

end ScopeAlgebra
