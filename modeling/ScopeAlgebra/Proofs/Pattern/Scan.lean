import ScopeAlgebra.Proofs.Pattern.Parser

/-!
# Scanning by position

The readers of patterns take the text that is left. A scan reads the same patterns by moving a
position in the whole text: it looks up single characters, which fails where the text has none, and
it calls itself wherever a pattern has parts, which fails when the calls nest deeper than it is
allowed to go. `LeftAt` ties a position to the text that is left there.
-/

namespace ScopeAlgebra.Pattern

/-- Why a scan stops: it finds a fault at a position, or it looks up a character where the text has
none. -/
inductive Stop where
  | fault (fault : PatternFault) (position : Nat)
  | overrun (position : Nat)
  deriving DecidableEq, Repr

/-- What a scan gives: a value or the reason why it stopped, and nothing when its calls nest deeper
than allowed. -/
abbrev Scan (α : Type) := ExceptT Stop Option α

/-- The scan whose calls nest too deep. -/
def unfinished {α : Type} : Scan α := ExceptT.mk none

variable (text : List Char)

/-! ## Positions -/

/-- The character at a position. -/
def lookAt (i : Nat) : Scan Char :=
  match text[i]? with
  | some c => pure c
  | none => throw (.overrun i)

/-- The position behind the characters of a class that stand at a position. -/
def pass (p : Char → Bool) (i : Nat) : Scan Nat := do
  if i < text.length then
    if p (← lookAt text i) then pass p (i + 1) else return i
  else return i
termination_by text.length - i

/-- The position behind white space. -/
def passBlanks (i : Nat) : Scan Nat := pass text Text.isBlank i

/-- Whether a token stands at a position. -/
def standsAt (token : List Char) (i : Nat) : Bool := token.isPrefixOf (text.drop i)

/-- The first position from `i` on at which a character stands. -/
def find? (c : Char) (i : Nat) : Option Nat := ((text.drop i).findIdx? (· = c)).map (i + ·)

/-- The text from one position to another. -/
def between (i j : Nat) : List Char := (text.drop i).take (j - i)

/-! ## Terms -/

/-- Scans the glob of a term. -/
def scanGlob (kind : TermKind) (module? : Option String) (i : Nat) : Scan (Pattern × Nat) := do
  let j ← pass text (!endsGlob ·) i
  if between text i j = [] then throw (.fault .expectedGlob j)
  else return (.term ⟨kind, module?, String.ofList (between text i j)⟩, j)

/-- Scans the colon and the glob of a term that starts at `start`. -/
def scanColon (kind : TermKind) (module? : Option String) (start i : Nat) : Scan (Pattern × Nat) :=
  do
  let expected := Stop.fault (.expectedColon (String.ofList (between text start i))) i
  if i < text.length then
    if (← lookAt text i) = ':' then scanGlob text kind module? (i + 1) else throw expected
  else throw expected

/-- Scans what follows the kind of a term that starts at `start`. -/
def scanModule (kind : TermKind) (start i : Nat) : Scan (Pattern × Nat) := do
  if i < text.length then
    if (← lookAt text i) = '[' then
      match find? text ']' i with
      | none => throw (.fault .unclosedBracket i)
      | some close =>
        let name := Text.trimChars (between text (i + 1) close)
        if name = [] then throw (.fault .blankModule i)
        else scanColon text kind (some (String.ofList name)) start (close + 1)
    else scanColon text kind none start i
  else scanColon text kind none start i

/-- Scans a term. The character in its first fault is looked up whether or not the text has one. -/
def scanTerm (i : Nat) : Scan (Pattern × Nat) := do
  let j ← pass text Text.isLetter i
  let letters := String.ofList (between text i j)
  if between text i j = [] then throw (.fault (.expectedTerm (← lookAt text j)) j)
  else
    match (Vocabulary.ofWord? letters : Option TermKind) with
    | none => throw (.fault (.unknownKind letters) i)
    | some kind => scanModule text kind i j

/-! ## Patterns -/

/-- Scans the parenthesis that closes a pattern, which one at `opened` opens. -/
def scanClosing (opened : Nat) (p : Pattern) (i : Nat) : Scan (Pattern × Nat) := do
  let j ← passBlanks text i
  if standsAt text [')'] j then return (p, j + 1) else throw (.fault .unclosedParenthesis opened)

mutual

/-- Scans the operands of a chain with its operator between them, and joins them. -/
def scanChain (o : Operator) (depth i : Nat) : Scan (Pattern × Nat) :=
  match depth with
  | 0 => unfinished
  | depth + 1 => do
    let (operands, j) ← scanOperands o depth i
    return (o.joinAll operands, j)
termination_by structural depth

/-- Scans the operands of a chain. -/
def scanOperands (o : Operator) (depth i : Nat) : Scan (List Pattern × Nat) :=
  match depth with
  | 0 => unfinished
  | depth + 1 => do
    let (p, j) ← scanOperand o depth i
    let j ← passBlanks text j
    if standsAt text [o.char, o.char] j then
      let (operands, k) ← scanOperands o depth (j + 2)
      return (p :: operands, k)
    else return ([p], j)
termination_by structural depth

/-- Scans one operand of a chain. -/
def scanOperand (o : Operator) (depth i : Nat) : Scan (Pattern × Nat) :=
  match depth with
  | 0 => unfinished
  | depth + 1 =>
    match o with
    | .or => scanChain .and depth i
    | .and => scanUnary depth i
termination_by structural depth

/-- Scans a pattern behind any number of negations. -/
def scanUnary (depth i : Nat) : Scan (Pattern × Nat) :=
  match depth with
  | 0 => unfinished
  | depth + 1 => do
    let i ← passBlanks text i
    if standsAt text ['!'] i then
      let (p, j) ← scanUnary depth (i + 1)
      return (p.negate, j)
    else scanPrimary depth i
termination_by structural depth

/-- Scans a term, or a pattern in parentheses. -/
def scanPrimary (depth i : Nat) : Scan (Pattern × Nat) :=
  match depth with
  | 0 => unfinished
  | depth + 1 => do
    let i ← passBlanks text i
    if i < text.length then
      if (← lookAt text i) = '(' then
        let (p, j) ← scanChain .or depth (i + 1)
        scanClosing text i p j
      else scanTerm text i
    else throw (.fault .unexpectedEnd i)
termination_by structural depth

end

/-- Scans a pattern that takes up the whole text. -/
def scanWhole (depth : Nat) : Scan Pattern := do
  let i ← passBlanks text 0
  if i < text.length then
    let (p, j) ← scanChain text .or depth i
    let j ← passBlanks text j
    if j < text.length then throw (.fault (.unexpected (← lookAt text j)) j) else return p
  else throw (.fault .blank i)

/-! ## Steps of a scan -/

/-- Nothing follows where a scan stops. -/
theorem throw_bind {α β : Type} (stop : Stop) (next : α → Scan β) :
    ((throw stop : Scan α) >>= next) = throw stop := rfl

/-- A character that does not occur has no position. -/
theorem findIdx?_of_notMem {c : Char} {cs : List Char} (h : c ∉ cs) :
    cs.findIdx? (· = c) = none := by
  rw [List.findIdx?_eq_none_iff]
  intro d hd
  simpa using fun heq : d = c => h (heq ▸ hd)

/-- The characters `cs` are what is left of a text at a position in it. -/
structure LeftAt (text : List Char) (i : Nat) (cs : List Char) : Prop where
  le_length : i ≤ text.length
  drop_eq : text.drop i = cs

namespace LeftAt

variable {text cs rest token : List Char} {c : Char} {i j : Nat}

/-- A position and what is left there add up to the length of the text. -/
theorem length_eq (h : LeftAt text i cs) : i + cs.length = text.length := by
  have hle := h.le_length
  rw [← h.drop_eq, List.length_drop]
  omega

/-- Positions further on are those of what is left there. -/
theorem append (h : LeftAt text i (token ++ rest)) : LeftAt text (i + token.length) rest := by
  have hlength := h.length_eq
  rw [List.length_append] at hlength
  refine ⟨by omega, ?_⟩
  rw [← List.drop_drop, h.drop_eq, List.drop_left]

/-- Behind the first character that is left, the others are. -/
theorem next (h : LeftAt text i (c :: rest)) : LeftAt text (i + 1) rest := by
  have hsplit : LeftAt text i ([c] ++ rest) := h
  exact hsplit.append

/-- A position is in the text when a character is left there. -/
theorem lt_length (h : LeftAt text i (c :: rest)) : i < text.length := by
  have hlength := h.length_eq
  rw [List.length_cons] at hlength
  omega

/-- A position is at the end when nothing is left there. -/
theorem not_lt_length (h : LeftAt text i []) : ¬ i < text.length := by
  rw [← h.length_eq]
  simp

/-- The character at a position is the first that is left. -/
theorem lookAt_eq (h : LeftAt text i (c :: rest)) : lookAt text i = pure c := by
  have hget : text[i]? = some c := by rw [← List.head?_drop, h.drop_eq, List.head?_cons]
  simp only [lookAt, hget]

/-- What stands between two positions is what was left at the first up to what is left at the
second. -/
theorem between_eq (h : LeftAt text i (token ++ rest)) (hrest : LeftAt text j rest) :
    between text i j = token := by
  have hlength := h.length_eq
  have hrestLength := hrest.length_eq
  rw [List.length_append] at hlength
  have hj : j - i = token.length := by omega
  rw [between, h.drop_eq, hj, List.take_left]

/-- A token stands at a position when what is left there starts with it. -/
theorem standsAt_iff (h : LeftAt text i cs) : standsAt text token i = true ↔ token <+: cs := by
  rw [standsAt, h.drop_eq, List.isPrefixOf_iff_prefix]

/-- Characters of a class are passed up to the first other one. -/
theorem pass_eq (h : LeftAt text i cs) (p : Char → Bool) :
    pass text p i = pure (i + (cs.takeWhile p).length) := by
  -- The induction is on what is left, while the position moves on with it.
  induction cs generalizing i with
  | nil =>
    rw [pass, if_neg h.not_lt_length]
    rfl
  | cons c rest ih =>
    rw [pass, if_pos h.lt_length, h.lookAt_eq, pure_bind]
    by_cases hc : p c = true
    · rw [if_pos hc, ih h.next, List.takeWhile_cons_of_pos hc, List.length_cons, Nat.add_assoc,
        Nat.add_comm 1]
    · rw [if_neg hc, List.takeWhile_cons_of_neg hc]
      rfl

/-- Passing the characters of a class ends at the rest behind them. -/
theorem exists_pass (h : LeftAt text i cs) (p : Char → Bool) :
    ∃ j, pass text p i = pure j ∧ LeftAt text j (cs.dropWhile p) ∧ i ≤ j ∧
      between text i j = cs.takeWhile p := by
  have hsplit : LeftAt text i (cs.takeWhile p ++ cs.dropWhile p) := by
    rwa [List.takeWhile_append_dropWhile]
  exact ⟨_, h.pass_eq p, hsplit.append, Nat.le_add_right _ _, hsplit.between_eq hsplit.append⟩

/-- White space is passed as it is skipped. -/
theorem exists_passBlanks (h : LeftAt text i cs) :
    ∃ j, passBlanks text i = pure j ∧ LeftAt text j (Text.skipBlanks cs) ∧ i ≤ j := by
  obtain ⟨j, hpass, hrest, hle, -⟩ := h.exists_pass Text.isBlank
  exact ⟨j, hpass, hrest, hle⟩

/-- A character that is not left is not found. -/
theorem find?_eq_none (h : LeftAt text i cs) (hc : c ∉ cs) : find? text c i = none := by
  rw [find?, h.drop_eq, findIdx?_of_notMem hc]
  rfl

/-- A character is found where it stands first. -/
theorem find?_eq_some (h : LeftAt text i (token ++ c :: rest)) (hc : c ∉ token) :
    find? text c i = some (i + token.length) := by
  rw [find?, h.drop_eq, List.findIdx?_append, findIdx?_of_notMem hc, List.findIdx?_cons]
  simp

end LeftAt

/-- Something stands between two positions only when the second is further on. -/
theorem lt_of_between_ne_nil {text : List Char} {i j : Nat} (h : between text i j ≠ []) :
    i < j := by
  refine Nat.lt_of_not_le fun hle => h ?_
  rw [between, Nat.sub_eq_zero_of_le hle, List.take_zero]

end ScopeAlgebra.Pattern
