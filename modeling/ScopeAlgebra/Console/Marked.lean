/-!
# Marked text

Characters with spans: stretches of them that have a style. Of a style it only matters here whether
it can be shown. A text that is divided keeps of each span what covers characters of a part; a text
that is not divided also keeps spans that cover nothing.
-/

namespace ScopeAlgebra

/-- A stretch of characters in a style, which may be one that cannot be shown. -/
structure Span where
  start : Nat
  stop : Nat
  isFaulty : Bool
  deriving DecidableEq, Repr

/-- Characters with the spans of their styles. -/
structure Marked where
  chars : List Char
  spans : List Span := []
  deriving DecidableEq, Repr

namespace Span

/-- The part of a span between two positions, counted from the first of them. -/
def between? (start stop : Nat) (s : Span) : Option Span :=
  let first := max start s.start
  let last := min stop s.stop
  if first < last then some ⟨first - start, last - start, s.isFaulty⟩ else none

/-- The part of a span in front of a position; a span that starts in front of it stays even when it
is empty. -/
def before? (stop : Nat) (s : Span) : Option Span :=
  if s.start < stop then some { s with stop := min stop s.stop } else none

/-- A span behind so many more characters. -/
def shift (offset : Nat) (s : Span) : Span :=
  { s with start := s.start + offset, stop := s.stop + offset }

end Span

namespace Marked

/-- Whether all styles can be shown. -/
def isShowable (t : Marked) : Bool := !t.spans.any (·.isFaulty)

/-- The parts of a text from one position on, divided at later ones. -/
def partsFrom (spans : List Span) (start : Nat) (cs : List Char) : List Nat → List Marked
  | [] => [⟨cs, spans.filterMap (Span.between? start (start + cs.length))⟩]
  | stop :: rest =>
    ⟨cs.take (stop - start), spans.filterMap (Span.between? start stop)⟩ ::
      partsFrom spans stop (cs.drop (stop - start)) rest

/-- The parts of a text divided at positions in rising order; without any, the text as it is. -/
def divide (t : Marked) (positions : List Nat) : List Marked :=
  if positions.isEmpty then [t] else partsFrom t.spans 0 t.chars positions

/-- The positions of a character from one position on. -/
def positionsOf (c : Char) (start : Nat) : List Char → List Nat
  | [] => []
  | d :: rest =>
    if d = c then start :: positionsOf c (start + 1) rest else positionsOf c (start + 1) rest

/-- The lines of a text. -/
def lines (t : Marked) : List Marked :=
  match t.divide (positionsOf '\n' 0 t.chars) with
  | [] => []
  | first :: rest => first :: rest.map fun line =>
      ⟨line.chars.drop 1, line.spans.filterMap (Span.between? 1 line.chars.length)⟩

/-- Texts one behind the other, from a position on. -/
def joinFrom (start : Nat) : List Marked → Marked
  | [] => ⟨[], []⟩
  | t :: rest =>
    let behind := joinFrom (start + t.chars.length) rest
    ⟨t.chars ++ behind.chars, t.spans.map (Span.shift start) ++ behind.spans⟩

/-- Texts one behind the other. -/
def join (ts : List Marked) : Marked := joinFrom 0 ts

/-- A text with more blanks, which have the styles of its last character. -/
def extend (count : Nat) (t : Marked) : Marked :=
  ⟨t.chars ++ List.replicate count ' ',
    t.spans.map fun s => if t.chars.length ≤ s.stop then { s with stop := s.stop + count } else s⟩

/-- A text behind so many blanks. -/
def indent (count : Nat) (t : Marked) : Marked :=
  ⟨List.replicate count ' ' ++ t.chars, t.spans.map (Span.shift count)⟩

/-- The first characters of a text, given how many. -/
def take (count : Nat) (t : Marked) : Marked :=
  ⟨t.chars.take count, t.spans.filterMap (Span.before? count)⟩

/-- Other characters under the same spans, as far as those reach. -/
def withChars (t : Marked) (cs : List Char) : Marked :=
  if cs.length < t.chars.length then { t.take cs.length with chars := cs }
  else { t with chars := cs }

/-- The characters of a text in runs between the ends of its spans. -/
def runs (t : Marked) : List (List Char) :=
  let ends := t.spans.flatMap fun s => [s.start, s.stop]
  ((Marked.mk t.chars []).divide (ends.mergeSort.eraseDups)).map Marked.chars

end Marked

end ScopeAlgebra
