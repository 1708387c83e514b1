import ScopeAlgebra.Yaml.Spot

/-!
# Folding of lines

Where a text goes on in the next line, the blanks around the line break are dropped, a single line
feed becomes a blank, and of several the first is dropped. The gap between two words is read
character by character and filled in when the next word begins.
-/

namespace ScopeAlgebra.Yaml

/-- The line breaks of a gap: what the first one leaves behind when others follow and when none
does, and those that follow (last one first). -/
structure Fold where
  lead : List Char
  single : List Char
  more : List Char := []
  deriving DecidableEq, Repr

/-- The gap between two words: its blanks (last one first), or its line breaks. -/
structure Gap where
  blanks : List Char := []
  fold? : Option Fold := none
  deriving DecidableEq, Repr

namespace Gap

/-- The fold of a first line break: a line feed becomes a blank, the other breaks stay. -/
def foldOf (c : Char) : Fold := if normalBreak c = '\n' then ⟨[], [' '], []⟩ else ⟨[c], [c], []⟩

/-- A gap with one more blank; blanks beside line breaks are dropped. -/
def blank (c : Char) (g : Gap) : Gap :=
  if g.fold?.isNone then { g with blanks := c :: g.blanks } else g

/-- A gap with one more line break. -/
def lineBreak (c : Char) (g : Gap) : Gap :=
  match g.fold? with
  | none => ⟨[], some (foldOf c)⟩
  | some fold => { g with fold? := some { fold with more := normalBreak c :: fold.more } }

/-- The gap of a line break that leaves nothing behind. -/
def escapedBreak : Gap := ⟨[], some ⟨[], [], []⟩⟩

/-- What a gap leaves behind, last character first. -/
def shown (g : Gap) : List Char :=
  match g.fold? with
  | none => g.blanks
  | some fold => if fold.more.isEmpty then fold.single else fold.more ++ fold.lead

end Gap

end ScopeAlgebra.Yaml
