import ScopeAlgebra.Noted

/-!
# Results side by side

When a computation succeeds, each of its parts did. Two results match when the first notes nothing
and both give the same value as long as nothing is noted: this is how a strict computation relates
to a lenient one, and sequencing keeps it (`Matches.andThen`).
-/

namespace ScopeAlgebra

variable {ε α β : Type}

/-- A computation succeeds when its first part does and the rest succeeds on the value. -/
theorem bind_eq_ok {x : Except ε α} {f : α → Except ε β} {b : β} :
    (x >>= f) = .ok b ↔ ∃ a, x = .ok a ∧ f a = .ok b := by
  cases x <;> simp [bind, Except.bind]

/-- A computation fails when its first part does, or the rest on the value. -/
theorem bind_eq_error {x : Except ε α} {f : α → Except ε β} {e : ε} :
    (x >>= f) = .error e ↔ x = .error e ∨ ∃ a, x = .ok a ∧ f a = .error e := by
  cases x <;> simp [bind, Except.bind]

/-- A value that is changed in the last part of a computation may be changed after it. -/
theorem bind_eq_map {γ : Type} {x : Except ε α} {f : α → Except ε γ} {g : α → Except ε β}
    {k : β → γ} (h : ∀ a, f a = (g a).map k) : (x >>= f) = (x >>= g).map k := by
  cases x with
  | error e => rfl
  | ok a => exact h a

/-- Computations go on alike when their first parts give values that differ in nothing that matters
later. -/
theorem bind_eq_of_map_eq {γ : Type} {x y : Except ε α} {view : α → γ} {f g : α → Except ε β}
    (h : x.map view = y.map view) (hfg : ∀ a b, view a = view b → f a = g b) :
    (x >>= f) = (y >>= g) := by
  cases x with
  | error e =>
    cases y with
    | error e' =>
      obtain rfl : e = e' := Except.error.inj h
      rfl
    | ok b => contradiction
  | ok a =>
    cases y with
    | error e' => contradiction
    | ok b => exact hfg a b (Except.ok.inj h)

/-- The value of a computation is changed where its last part gives it. -/
theorem map_bind {γ : Type} (x : Except ε α) (f : α → Except ε β) (k : β → γ) :
    (x >>= f).map k = (x >>= fun a => (f a).map k) := by
  cases x <;> rfl

/-- Naming errors differently does not touch the value. -/
theorem map_mapError {ε' : Type} (x : Except ε α) (f : ε → ε') (k : α → β) :
    (x.mapError f).map k = (x.map k).mapError f := by
  cases x <;> rfl

/-- A changed value comes from a value. -/
theorem map_eq_ok {x : Except ε α} {f : α → β} {b : β} :
    x.map f = .ok b ↔ ∃ a, x = .ok a ∧ f a = b := by
  cases x <;> simp [Except.map]

/-- Naming errors differently does not change what succeeds. -/
theorem mapError_eq_ok {ε' : Type} {x : Except ε α} {f : ε → ε'} {a : α} :
    x.mapError f = .ok a ↔ x = .ok a := by
  cases x with
  | error e =>
    show Except.error (f e) = .ok a ↔ Except.error e = .ok a
    simp
  | ok b =>
    exact ⟨fun h => congrArg Except.ok (Except.ok.inj h),
      fun h => congrArg Except.ok (Except.ok.inj h)⟩

/-- Only the empty list has nothing left when repetitions are dropped. -/
theorem eraseDups_eq_nil_iff {texts : Diagnostics} : texts.eraseDups = [] ↔ texts = [] := by
  cases texts with
  | nil => simp
  | cons s rest => simp [List.eraseDups_cons]

/-- Dropping repetitions leaves none. -/
theorem nodup_eraseDups {α : Type} [DecidableEq α] (xs : List α) : xs.eraseDups.Nodup := by
  -- What is left behind the first element is shorter and no longer holds it.
  match xs with
  | [] => simp
  | x :: rest =>
    rw [List.eraseDups_cons, List.nodup_cons]
    exact ⟨by simp [List.mem_eraseDups], nodup_eraseDups _⟩
termination_by xs.length
decreasing_by exact Nat.lt_succ_of_le (List.length_filter_le _ _)

/-- Nothing is dropped from a list exactly when it repeats nothing. -/
theorem eraseDups_eq_self_iff {α : Type} [DecidableEq α] {xs : List α} :
    xs.eraseDups = xs ↔ xs.Nodup := by
  constructor
  · intro hsame
    rw [← hsame]
    exact nodup_eraseDups xs
  · intro hnodup
    induction xs with
    | nil => rfl
    | cons x rest ih =>
      obtain ⟨hx, hrest⟩ := List.nodup_cons.mp hnodup
      have hkept : (rest.filter fun y => !y == x) = rest := by
        refine List.filter_eq_self.mpr fun y hy => ?_
        have hne : y ≠ x := fun heq => hx (heq ▸ hy)
        simpa using hne
      rw [List.eraseDups_cons, hkept, ih hrest]

namespace Noted

/-- Both parts of a sequence succeed when the whole does, and their notes are put together. -/
theorem andThen_eq_ok {x : Noted α} {next : α → Noted β} {b : β} {notes : Diagnostics} :
    x.andThen next = .ok (b, notes) ↔
      ∃ a first more, x = .ok (a, first) ∧ next a = .ok (b, more) ∧ notes = first ++ more := by
  rcases x with e | ⟨a, first⟩
  · simp
  · rcases hnext : next a with e | ⟨b', more⟩
    · simp [andThen, hnext]
    · simp only [andThen, hnext, Except.ok.injEq, Prod.mk.injEq]
      constructor
      · rintro ⟨rfl, rfl⟩
        exact ⟨a, first, more, ⟨rfl, rfl⟩, hnext, rfl⟩
      · rintro ⟨a', first', more', ⟨rfl, rfl⟩, hmore, rfl⟩
        rw [hnext] at hmore
        cases hmore
        exact ⟨rfl, rfl⟩

/-- A changed value comes from a value with the same notes. -/
theorem onValue_eq_ok {x : Noted α} {f : α → β} {b : β} {notes : Diagnostics} :
    x.onValue f = .ok (b, notes) ↔ ∃ a, x = .ok (a, notes) ∧ f a = b := by
  rw [onValue, andThen_eq_ok]
  constructor
  · rintro ⟨a, first, more, hx, hf, rfl⟩
    cases hf
    exact ⟨a, by rwa [List.append_nil], rfl⟩
  · rintro ⟨a, hx, rfl⟩
    exact ⟨a, notes, [], hx, rfl, (List.append_nil notes).symm⟩

/-- Changing the value does not change what fails. -/
theorem onValue_eq_error {x : Noted α} {f : α → β} {e : EngineError} :
    x.onValue f = .error e ↔ x = .error e := by
  simp [onValue, andThen_eq_error, plain]

/-- A result that notes nothing, and one that gives the same value as long as it notes nothing. -/
structure Matches (strict other : Noted α) : Prop where
  silent : ∀ a notes, strict = .ok (a, notes) → notes = []
  same : ∀ a, strict = .ok (a, []) ↔ other = .ok (a, [])

/-- A value about which nothing is noted matches itself. -/
theorem matches_plain (a : α) : Matches (plain a) (plain a) := by
  refine ⟨fun b notes h => ?_, fun b => Iff.rfl⟩
  cases h
  rfl

/-- An error matches any error. -/
theorem matches_error (e e' : EngineError) : Matches (.error e : Noted α) (.error e') :=
  ⟨by simp, by simp⟩

/-- An error matches a value that is given with a note. -/
theorem matches_withNote (e : EngineError) (a : α) (note : String) :
    Matches (.error e) (withNote a note) :=
  ⟨by simp, by simp [withNote]⟩

/-- Sequences match when their parts do, the second ones on every value that the first ones give. -/
theorem Matches.andThen {x y : Noted α} {f g : α → Noted β} (h : Matches x y)
    (hnext : ∀ a, x = .ok (a, []) → Matches (f a) (g a)) : Matches (x.andThen f) (y.andThen g) := by
  -- The first result is silent in both of its parts, so the second one has to be followed in the
  -- same two.
  refine ⟨fun b notes hb => ?_, fun b => ?_⟩
  · obtain ⟨a, first, more, hx, hf, rfl⟩ := andThen_eq_ok.mp hb
    obtain rfl := h.silent a first hx
    rw [(hnext a hx).silent b more hf]
    rfl
  · -- A sequence notes nothing when neither of its parts does.
    simp only [andThen_eq_ok, List.nil_eq, List.append_eq_nil_iff]
    constructor
    · rintro ⟨a, first, more, hx, hf, rfl, rfl⟩
      exact ⟨a, [], [], (h.same a).mp hx, ((hnext a hx).same b).mp hf, rfl, rfl⟩
    · rintro ⟨a, first, more, hy, hg, rfl, rfl⟩
      have hx : x = .ok (a, []) := (h.same a).mpr hy
      exact ⟨a, [], [], hx, ((hnext a hx).same b).mpr hg, rfl, rfl⟩

/-- Changing the value keeps results matching. -/
theorem Matches.onValue {x y : Noted α} (h : Matches x y) (f : α → β) :
    Matches (x.onValue f) (y.onValue f) :=
  h.andThen fun a _ => matches_plain (f a)

/-- What the first result gives is what the second one gives without a note. -/
theorem Matches.eq_ok_iff {x y : Noted α} (h : Matches x y) {a : α} {notes : Diagnostics} :
    x = .ok (a, notes) ↔ y = .ok (a, notes) ∧ notes = [] := by
  constructor
  · intro hx
    obtain rfl := h.silent a notes hx
    exact ⟨(h.same a).mp hx, rfl⟩
  · rintro ⟨hy, rfl⟩
    exact (h.same a).mpr hy

end Noted

end ScopeAlgebra
