import ScopeAlgebra.Proofs.Atoms.Denotation
import ScopeAlgebra.Proofs.Pattern.Composition
import ScopeAlgebra.Proofs.Program.Check
import ScopeAlgebra.Proofs.Program.Completion

/-!
# Programs over patterns

A program that pushes nothing but ad-hoc patterns gives a global scope under every policy, and the
scope contains what the patterns select, read as booleans along the program
(`evaluate_of_overPatterns`). Patterns in parentheses that are put together as texts have the same
reading. So an operator of a program over two patterns can as well stand in the text of one pattern
(`evaluate_combined`).
-/

namespace ScopeAlgebra.Program

/-- An ad-hoc atom for the text of a pattern, one of the given atoms and under an id that tokens can
name. -/
structure PatternAmong (given : List Atom) (a : Atom) (text : String) : Prop where
  mem : a ∈ given
  kind_eq : a.kind = .adhocPattern
  pattern?_eq : a.pattern? = some text
  id_ne : a.id ≠ ""

/-- What a connective makes of two answers. -/
def Connective.answer : Connective → Bool → Bool → Bool
  | .and, x, y => x && y
  | .or, x, y => x || y

/-- The operator of the pattern language that goes by a connective's name. -/
def Connective.operator : Connective → Pattern.Operator
  | .and => .and
  | .or => .or

/-- An expression over atoms for patterns, with its boolean reading: whether it selects a file. -/
inductive OverPatterns (given : List Atom) : Expr → (File → Bool) → Prop where
  | atom {a : Atom} {text : String} {p : Pattern} (ha : PatternAmong given a text)
    (hp : Pattern.parse text = .ok p) :
    OverPatterns given (.atom a.id) p.selects
  | binary (c : Connective) {left right : Expr} {sel sel' : File → Bool}
    (hleft : OverPatterns given left sel) (hright : OverPatterns given right sel') :
    OverPatterns given (.binary c left right) fun f => c.answer (sel f) (sel' f)
  | not {operand : Expr} {sel : File → Bool} (hoperand : OverPatterns given operand sel) :
    OverPatterns given (.not operand) fun f => !sel f

variable {cx : Context} {given : List Atom} {a b : Atom} {text text' : String}
  {p q : Pattern} {e : Expr} {sel : File → Bool} {tokens : List Token}

/-! ## Connectives and operators -/

/-- Predicates that a connective joins accept what it makes of their answers. -/
theorem contains_predicate (c : Connective) (left right : Predicate) (f : File) :
    (c.predicate left right).contains f = c.answer (left.contains f) (right.contains f) := by
  cases c <;> rfl

/-- Predicates that are both global are joined to a global one. -/
theorem shape_predicate (c : Connective) {left right : Predicate} (hleft : left.shape = .global)
    (hright : right.shape = .global) : (c.predicate left right).shape = .global := by
  cases c <;> simp [Connective.predicate, Predicate.shape, hleft, hright]

/-- Patterns that an operator joins select what the connective of its name makes of their
answers. -/
theorem selects_join (c : Connective) (p q : Pattern) (f : File) :
    (c.operator.join p q).selects f = c.answer (p.selects f) (q.selects f) := by
  cases c with
  | and => exact Pattern.selects_join_and p q f
  | or => exact Pattern.selects_join_or p q f

/-! ## The scope of a program over patterns -/

/-- An atom for a pattern has a filter as its value, whatever else it carries. -/
theorem leafValue_of_patternAmong (ha : PatternAmong given a text)
    (hp : Pattern.parse text = .ok p) :
    leafValue cx a = .plain (some (.filter p.render p.selects)) := by
  have hne : text ≠ "" := by
    rintro rfl
    contradiction
  have htext : nonEmpty? a.pattern? = some text := by
    rw [ha.pattern?_eq, Atom.nonEmpty?_of_ne_empty hne]
  have hresolve : a.resolve cx.catalog cx.workspace cx.allowInteractive =
      .ok (.filter p.render p.selects) :=
    Atom.resolve_eq_ok.mpr (.pattern ha.kind_eq htext
      (Atom.patternScope_none_eq_ok.mpr ⟨p, hp, rfl⟩))
  simp only [leafValue, hresolve]

/-- An expression over atoms for patterns names only given atoms. -/
theorem OverPatterns.known (h : OverPatterns given e sel) : e.Known (given.map Atom.id) := by
  induction h with
  | atom ha _ => exact (Expr.known_atom ..).mpr ⟨ha.id_ne, List.mem_map_of_mem ha.mem⟩
  | binary c _ _ ihl ihr => exact (Expr.known_binary ..).mpr ⟨ihl, ihr⟩
  | not _ ih => exact (Expr.known_not ..).mpr ih

/-- The value of an expression over patterns is global, so each of its negations has a complement,
and accepts what the expression selects. -/
theorem OverPatterns.value_eq (cx : Context) (h : OverPatterns given e sel)
    (hdistinct : checkDistinct given = .ok ()) (index : Nat) :
    ∃ p, e.value cx (given.map fun a => (a.id, a)) index = .plain (some p) ∧ p.shape = .global ∧
      p.contains = sel := by
  -- The induction is along the expression. A filter is global and connectives keep that, so a
  -- negation is always taken.
  induction h generalizing index with
  | @atom a text p ha hp =>
    have hlookup := lookup_of_mem (nodup_ids_of_checkDistinct hdistinct) ha.mem
    refine ⟨.filter p.render p.selects, ?_, rfl, rfl⟩
    simp only [Expr.value, hlookup, leafValue_of_patternAmong ha hp]
  | @binary c left right _ _ _ _ ihl ihr =>
    obtain ⟨l, hl, hlshape, rfl⟩ := ihl index
    obtain ⟨r, hr, hrshape, rfl⟩ := ihr (index + left.tokens.length)
    refine ⟨c.predicate l r, ?_, shape_predicate c hlshape hrshape,
      funext (contains_predicate c l r)⟩
    simp only [Expr.value, hl, hr, Noted.plain_andThen]
  | @not operand _ _ ih =>
    obtain ⟨p, hp, hshape, rfl⟩ := ih index
    refine ⟨.compl p, ?_, rfl, rfl⟩
    simp only [Expr.value, hp, Noted.plain_andThen, complementValue, hshape]

/-- A program over patterns gives a scope in every context, and the scope contains what the program
selects. -/
theorem evaluate_of_overPatterns (cx : Context) (h : OverPatterns given e sel)
    (hdistinct : checkDistinct given = .ok ()) (htokens : tokens.map bareToken = e.tokens) :
    ∃ scope, evaluate cx tokens given = .ok scope ∧ scope.predicate.contains = sel := by
  have hwrites : Writes (given.map Atom.id) e tokens := ⟨htokens, h.known⟩
  obtain ⟨p, hp, -, hsel⟩ := h.value_eq cx hdistinct 0
  refine ⟨⟨p, p.displayName, p.shape, mergeDiagnostics [[]]⟩, ?_, hsel⟩
  rw [evaluate_of_writes hdistinct (check_eq_ok.mpr ⟨e, hwrites⟩) hwrites, Expr.outcome, hp]
  rfl

/-! ## Operators of a program and of a pattern -/

/-- Two programs give scopes, and these contain the same files. -/
def SelectAlike (x y : Except EngineError Resolved) : Prop :=
  ∃ scope scope', x = .ok scope ∧ y = .ok scope' ∧
    ∀ f, scope.predicate.contains f = scope'.predicate.contains f

/-- Programs over patterns with the same boolean reading contain the same files. -/
theorem OverPatterns.selectAlike {given' : List Atom} {e' : Expr} {sel' : File → Bool}
    {tokens' : List Token} (h : OverPatterns given e sel) (h' : OverPatterns given' e' sel')
    (hdistinct : checkDistinct given = .ok ()) (hdistinct' : checkDistinct given' = .ok ())
    (htokens : tokens.map bareToken = e.tokens) (htokens' : tokens'.map bareToken = e'.tokens)
    (hsel : ∀ f, sel f = sel' f) :
    SelectAlike (evaluate cx tokens given) (evaluate cx tokens' given') := by
  obtain ⟨scope, hscope, rfl⟩ := evaluate_of_overPatterns cx h hdistinct htokens
  obtain ⟨scope', hscope', rfl⟩ := evaluate_of_overPatterns cx h' hdistinct' htokens'
  exact ⟨scope, scope', hscope, hscope', hsel⟩

/-- Two texts of patterns, put between parentheses and joined by an operator, make the text of a
pattern, and so does one that is negated. Pushing an ad-hoc atom for the text that they make
contains the same files as pushing atoms for the texts themselves and then the connective of the
same name, or the negation. The programs are evaluated over any atoms with distinct ids that these
are among, in any context; the tokens of operations may carry an idle id. -/
theorem evaluate_combined (cx : Context) (text text' : String) (p q : Pattern)
    (hp : Pattern.parse text = .ok p) (hq : Pattern.parse text' = .ok q) :
    (∀ c : Connective,
      (∃ r, Pattern.parse
        (Pattern.parenthesized text ++ c.operator.sign ++ Pattern.parenthesized text') = .ok r) ∧
        ∀ (given given' : List Atom) (a b whole : Atom) (idle? : Option String),
          checkDistinct given = .ok () → checkDistinct given' = .ok () →
          PatternAmong given a text → PatternAmong given b text' →
          PatternAmong given' whole
            (Pattern.parenthesized text ++ c.operator.sign ++ Pattern.parenthesized text') →
          SelectAlike (evaluate cx [.ofAtom whole.id] given')
            (evaluate cx [.ofAtom a.id, .ofAtom b.id, ⟨c.op, idle?⟩] given)) ∧
      (∃ r, Pattern.parse ("!" ++ Pattern.parenthesized text) = .ok r) ∧
        ∀ (given given' : List Atom) (a whole : Atom) (idle? : Option String),
          checkDistinct given = .ok () → checkDistinct given' = .ok () →
          PatternAmong given a text →
          PatternAmong given' whole ("!" ++ Pattern.parenthesized text) →
          SelectAlike (evaluate cx [.ofAtom whole.id] given')
            (evaluate cx [.ofAtom a.id, ⟨.not, idle?⟩] given) := by
  refine ⟨fun c => ?_, ?_⟩
  · have hjoined := Pattern.parse_joined c.operator hp hq
    refine ⟨⟨_, hjoined⟩, fun given given' a b whole idle? hdistinct hdistinct' ha hb hwhole => ?_⟩
    have htokens : ([.ofAtom a.id, .ofAtom b.id, ⟨c.op, idle?⟩] : List Token).map bareToken =
        (Expr.binary c (.atom a.id) (.atom b.id)).tokens := by
      cases c <;> rfl
    exact (OverPatterns.atom hwhole hjoined).selectAlike (.binary c (.atom ha hp) (.atom hb hq))
      hdistinct' hdistinct rfl htokens (selects_join c p q)
  · have hnegated := Pattern.parse_negated hp
    refine ⟨⟨_, hnegated⟩, fun given given' a whole idle? hdistinct hdistinct' ha hwhole => ?_⟩
    exact (OverPatterns.atom hwhole hnegated).selectAlike (.not (.atom ha hp)) hdistinct'
      hdistinct rfl rfl (Pattern.selects_negate p)

/-- An atom for a pattern and nothing else. -/
def patternAtom (id text : String) : Atom :=
  { id := id, kind := .adhocPattern, pattern? := some text }

/-- A glob that ends in white space keeps it in front of the closing parenthesis, and the negation
stays within its own parentheses. -/
theorem evaluate_combined_margins :
    let text := "file:a\u00a0"
    let text' := "!test:b"
    let cx : Context := { catalog := {}, workspace := {} }
    Pattern.parse text = .ok (.term ⟨.file, none, "a\u00a0"⟩) ∧
      Pattern.parse text' = .ok (.negation (.term ⟨.test, none, "b"⟩)) ∧
      checkDistinct [patternAtom "a" text, patternAtom "b" text'] = .ok () ∧
      SelectAlike (evaluate cx [.ofAtom "w"] [patternAtom "w" "(file:a\u00a0)||(!test:b)"])
        (evaluate cx [.ofAtom "a", .ofAtom "b", ⟨.or, some "idle"⟩]
          [patternAtom "a" text, patternAtom "b" text']) ∧
      SelectAlike (evaluate cx [.ofAtom "w"] [patternAtom "w" "!(!test:b)"])
        (evaluate cx [.ofAtom "b", ⟨.not, none⟩] [patternAtom "b" text']) := by
  intro text text' cx
  have hfile : Pattern.Canonical (.term ⟨.file, none, "a\u00a0"⟩) :=
    Pattern.canonical_plain (by decide) (by decide)
  have htest : Pattern.Canonical (.term ⟨.test, none, "b"⟩) :=
    Pattern.canonical_plain (by decide) (by decide)
  have hp : Pattern.parse text = .ok (.term ⟨.file, none, "a\u00a0"⟩) := hfile.parse_render
  have hq : Pattern.parse text' = .ok (.negation (.term ⟨.test, none, "b"⟩)) :=
    (Pattern.Canonical.negation htest (by simp)).parse_render
  have hamong (id : String) {given : List Atom} {text : String} (hmem : patternAtom id text ∈ given)
      (hid : id ≠ "") :
      PatternAmong given (patternAtom id text) text := ⟨hmem, rfl, rfl, hid⟩
  have hdistinct : checkDistinct [patternAtom "a" text, patternAtom "b" text'] = .ok () := rfl
  have hor := ((evaluate_combined cx text text' _ _ hp hq).1 .or).2 _ [patternAtom "w" _] _ _ _
    (some "idle") hdistinct rfl (hamong "a" List.mem_cons_self (by decide))
    (hamong "b" (List.mem_cons_of_mem _ List.mem_cons_self) (by decide))
    (hamong "w" List.mem_cons_self (by decide))
  have hnot := (evaluate_combined cx text' text' _ _ hq hq).2.2 [_] [patternAtom "w" _] _
    _ none rfl rfl (hamong "b" List.mem_cons_self (by decide))
    (hamong "w" List.mem_cons_self (by decide))
  exact ⟨hp, hq, hdistinct, hor, hnot⟩

end ScopeAlgebra.Program
