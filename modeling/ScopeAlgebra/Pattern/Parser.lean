import ScopeAlgebra.Pattern.Reader

/-!
# Reading patterns

From loosest to tightest a pattern is built with `||`, `&&` and `!`; parentheses group, and white
space may stand before every operator, parenthesis and term. A reader of one level is given the
reader of the level below, and what stands in parentheses is shorter than the text around it, so the
reader for texts below one length needs only the one for texts below the length before.
-/

namespace ScopeAlgebra.Pattern

/-- A reader of the texts that are shorter than `bound`. What it reads uses up characters. -/
structure Reader (bound : Nat) (α : Type) where
  read (cs : List Char) : cs.length < bound → Reading α
  length_rest {cs rest : List Char} {h : cs.length < bound} {a : α} :
    read cs h = .ok (a, rest) → rest.length < cs.length

/-- Reads the parenthesis that closes what was read behind the opening one of `cs`. -/
def closeParenthesis (cs : List Char) : Reading Pattern → Reading Pattern
  | .error failure => .error failure
  | .ok (p, rest) =>
    match Text.skipBlanks rest with
    | ')' :: rest => .ok (p, rest)
    | _ => failAt .unclosedParenthesis cs

/-- A closing parenthesis uses up one more character. -/
theorem length_closeParenthesis {cs rest : List Char} {reading : Reading Pattern} {p : Pattern}
    (h : closeParenthesis cs reading = .ok (p, rest)) :
    ∃ inner, reading = .ok (p, inner) ∧ rest.length < inner.length := by
  rcases reading with failure | ⟨q, inner⟩
  · contradiction
  · have hle := Text.length_skipBlanks_le inner
    simp only [closeParenthesis] at h
    split at h
    next more hskip =>
      cases h
      rw [hskip] at hle
      exact ⟨inner, rfl, hle⟩
    · contradiction

/-- Reads a term, or a pattern in parentheses by means of `inner`. -/
def readPrimary {bound : Nat} (inner : Reader bound Pattern) :
    (cs : List Char) → cs.length < bound + 1 → Reading Pattern
  | [], _ => readTerm []
  | c :: tail, h =>
    if c = '(' then closeParenthesis (c :: tail) (inner.read tail (Nat.lt_of_succ_lt_succ h))
    else readTerm (c :: tail)

/-- What a primary leaves is shorter. -/
theorem length_readPrimary {bound : Nat} {inner : Reader bound Pattern} {cs rest : List Char}
    {h : cs.length < bound + 1} {p : Pattern} (hread : readPrimary inner cs h = .ok (p, rest)) :
    rest.length < cs.length := by
  rcases cs with _ | ⟨c, tail⟩
  · exact length_readTerm hread
  · rw [readPrimary] at hread
    split at hread
    · obtain ⟨between, hinner, hlt⟩ := length_closeParenthesis hread
      exact Nat.lt_succ_of_lt (Nat.lt_trans hlt (inner.length_rest hinner))
    · exact length_readTerm hread

/-- Reads a term or parentheses behind white space and any number of negations. -/
def readUnary {bound : Nat} (inner : Reader bound Pattern) :
    (cs : List Char) → cs.length < bound + 1 → Reading Pattern
  | [], _ => failAt .unexpectedEnd []
  | c :: rest, h =>
    if Text.isBlank c then readUnary inner rest (Nat.lt_of_succ_lt h)
    else if c = '!' then
      match readUnary inner rest (Nat.lt_of_succ_lt h) with
      | .error failure => .error failure
      | .ok (p, rest) => .ok (p.negate, rest)
    else readPrimary inner (c :: rest) h

/-- What a unary pattern leaves is shorter. -/
theorem length_readUnary {bound : Nat} {inner : Reader bound Pattern} {cs rest : List Char}
    {h : cs.length < bound + 1} {p : Pattern} (hread : readUnary inner cs h = .ok (p, rest)) :
    rest.length < cs.length := by
  induction cs generalizing p with
  | nil => contradiction
  | cons c tail ih =>
    unfold readUnary at hread
    split at hread
    · exact Nat.lt_succ_of_lt (ih hread)
    · split at hread
      · split at hread
        · contradiction
        next hinner =>
          cases hread
          exact Nat.lt_succ_of_lt (ih hinner)
      · exact length_readPrimary hread

/-- The reader of unary patterns. -/
def unaryReader {bound : Nat} (inner : Reader bound Pattern) : Reader (bound + 1) Pattern :=
  ⟨readUnary inner, length_readUnary⟩

/-- Reads one or more operands with the doubled operator character `op` between them. White space
behind the last operand is skipped. -/
def readChain {bound : Nat} (op : Char) (operand : Reader bound Pattern) (cs : List Char)
    (h : cs.length < bound) : Reading (List Pattern) :=
  match _hread : operand.read cs h with
  | .error failure => .error failure
  | .ok (p, rest) =>
    match _hskip : Text.skipBlanks rest with
    | c :: d :: more =>
      if c = op && d = op then
        have hmore : more.length < cs.length := by
          have hlt := operand.length_rest _hread
          have hle := Text.length_skipBlanks_le rest
          rw [_hskip] at hle
          simp only [List.length_cons] at hle
          omega
        match readChain op operand more (Nat.lt_trans hmore h) with
        | .error failure => .error failure
        | .ok (operands, rest) => .ok (p :: operands, rest)
      else .ok ([p], c :: d :: more)
    | rest => .ok ([p], rest)
termination_by cs.length

/-- What a chain leaves is shorter. -/
theorem length_readChain {bound : Nat} {op : Char} {operand : Reader bound Pattern}
    {cs rest : List Char} {h : cs.length < bound} {operands : List Pattern}
    (hread : readChain op operand cs h = .ok (operands, rest)) : rest.length < cs.length := by
  fun_induction readChain op operand cs h generalizing operands rest with
  | case1 => contradiction
  | case2 => contradiction
  | case3 cs h p after hp c d more hskip hop hmore operands' rest' hchain ih =>
    cases hread
    exact Nat.lt_trans (ih hchain) hmore
  | case4 cs h p after hp c d more hskip =>
    cases hread
    have hle := Text.length_skipBlanks_le after
    rw [hskip] at hle
    exact Nat.lt_of_le_of_lt hle (operand.length_rest hp)
  | case5 cs h p after hp =>
    cases hread
    exact Nat.lt_of_le_of_lt (Text.length_skipBlanks_le after) (operand.length_rest hp)

/-- The reader of chains, which `join` makes into one pattern. -/
def chainReader {bound : Nat} (op : Char) (join : List Pattern → Pattern)
    (operand : Reader bound Pattern) : Reader bound Pattern where
  read cs h :=
    match readChain op operand cs h with
    | .error failure => .error failure
    | .ok (operands, rest) => .ok (join operands, rest)
  length_rest hread := by
    split at hread
    · contradiction
    next hchain =>
      cases hread
      exact length_readChain hchain

/-- The reader of patterns in texts shorter than a bound. -/
def reader : (bound : Nat) → Reader bound Pattern
  | 0 => ⟨fun _ h => absurd h (Nat.not_lt_zero _), fun {_ _ h} => absurd h (Nat.not_lt_zero _)⟩
  | bound + 1 => chainReader '|' disjoin (chainReader '&' conjoin (unaryReader (reader bound)))

/-- Reads a pattern that takes up the whole text. -/
def readWhole (cs : List Char) : Except Failure Pattern :=
  match Text.skipBlanks cs with
  | [] => failAt .blank []
  | cs =>
    match (reader (cs.length + 1)).read cs (Nat.lt_succ_self _) with
    | .error failure => .error failure
    | .ok (p, rest) =>
      match Text.skipBlanks rest with
      | [] => .ok p
      | c :: rest => failAt (.unexpected c) (c :: rest)

/-- The pattern that a text stands for. -/
def parse (text : String) : Except PatternError Pattern :=
  match readWhole text.toList with
  | .ok p => .ok p
  | .error failure => .error ⟨failure.fault, text.toList.length - failure.remaining + 1⟩

/-- The canonical text of a pattern. -/
def canonical (text : String) : Except PatternError String := (parse text).map render

end ScopeAlgebra.Pattern
