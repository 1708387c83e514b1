import ScopeAlgebra.Pattern.Fault
import ScopeAlgebra.Text.Blank
import ScopeAlgebra.Text.Letter

/-!
# Reading terms

A reader takes the text that is left and returns what it read with the rest, or a failure that
carries the number of characters that were left where the fault was found. A term is a kind, a
module in brackets, a colon and a glob; `length_readTerm` says that reading one uses up characters.
-/

namespace ScopeAlgebra.Pattern

/-- A fault together with the number of characters that were left where it was found. -/
structure Failure where
  fault : PatternFault
  remaining : Nat
  deriving DecidableEq, Repr

/-- What a reader returns: a value and the characters that are left, or a failure. -/
abbrev Reading (α : Type) := Except Failure (α × List Char)

/-- A failure in front of the characters `rest`. -/
def failAt {α : Type} (fault : PatternFault) (rest : List Char) : Except Failure α :=
  .error ⟨fault, rest.length⟩

/-- Whether a character ends a glob. -/
def endsGlob (c : Char) : Bool :=
  c = ' ' || c = '\t' || c = '\r' || c = '\n' || c = '(' || c = ')' || c = '|' || c = '&' || c = '!'

/-- Reads the glob of a term behind its colon. -/
def readGlob (kind : TermKind) (module? : Option String) (cs : List Char) : Reading Pattern :=
  match cs.takeWhile (!endsGlob ·) with
  | [] => failAt .expectedGlob cs
  | glob => .ok (.term ⟨kind, module?, String.ofList glob⟩, cs.dropWhile (!endsGlob ·))

/-- Reads the colon and the glob of a term; `head` is what was read of the term. -/
def readColon (kind : TermKind) (module? : Option String) (head : List Char) :
    List Char → Reading Pattern
  | ':' :: cs => readGlob kind module? cs
  | cs => failAt (.expectedColon (String.ofList head)) cs

/-- Reads what follows the kind of a term: a module in brackets, if there is one, and the glob. -/
def readModule (kind : TermKind) (cs : List Char) : Reading Pattern :=
  match cs with
  | '[' :: inner =>
    match inner.dropWhile (· ≠ ']') with
    | [] => failAt .unclosedBracket cs
    | _ :: rest =>
      let text := inner.takeWhile (· ≠ ']')
      match Text.trimChars text with
      | [] => failAt .blankModule cs
      | module =>
        readColon kind (some (String.ofList module))
          ((word kind).toList ++ '[' :: text ++ [']']) rest
  | _ => readColon kind none (word kind).toList cs

/-- Reads a term at the first character of a text. -/
def readTerm (cs : List Char) : Reading Pattern :=
  match cs.takeWhile Text.isLetter with
  | [] =>
    match cs with
    | [] => failAt .unexpectedEnd cs
    | c :: _ => failAt (.expectedTerm c) cs
  | letters =>
    let kind := String.ofList letters
    match Vocabulary.ofWord? kind with
    | none => failAt (.unknownKind kind) cs
    | some kind => readModule kind (cs.dropWhile Text.isLetter)

/-- Dropping leading characters never lengthens a text. -/
theorem length_dropWhile_le (p : Char → Bool) (cs : List Char) :
    (cs.dropWhile p).length ≤ cs.length :=
  (List.dropWhile_sublist p (l := cs)).length_le

/-- What a glob leaves is no longer than the text. -/
theorem length_readGlob {kind : TermKind} {module? : Option String} {cs rest : List Char}
    {p : Pattern} (h : readGlob kind module? cs = .ok (p, rest)) : rest.length ≤ cs.length := by
  unfold readGlob at h
  split at h
  · contradiction
  · cases h
    exact length_dropWhile_le _ cs

/-- What a colon and a glob leave is shorter. -/
theorem length_readColon {kind : TermKind} {module? : Option String} {head cs rest : List Char}
    {p : Pattern} (h : readColon kind module? head cs = .ok (p, rest)) :
    rest.length < cs.length := by
  unfold readColon at h
  split at h
  · exact Nat.lt_succ_of_le (length_readGlob h)
  · contradiction

/-- What follows a kind leaves a shorter text. -/
theorem length_readModule {kind : TermKind} {cs rest : List Char} {p : Pattern}
    (h : readModule kind cs = .ok (p, rest)) : rest.length < cs.length := by
  unfold readModule at h
  split at h
  next inner =>
    split at h
    · contradiction
    next after hdrop =>
      simp only at h
      split at h
      · contradiction
      · have hle := length_dropWhile_le (fun d => decide (d ≠ ']')) inner
        rw [hdrop] at hle
        have hlt := length_readColon h
        simp only [List.length_cons] at hle ⊢
        omega
  · exact length_readColon h

/-- A term that was read is shorter by at least its kind. -/
theorem length_readTerm {cs rest : List Char} {p : Pattern} (h : readTerm cs = .ok (p, rest)) :
    rest.length < cs.length := by
  unfold readTerm at h
  split at h
  · split at h <;> contradiction
  · simp only at h
    split at h
    · contradiction
    · exact Nat.lt_of_lt_of_le (length_readModule h) (length_dropWhile_le _ cs)

end ScopeAlgebra.Pattern
