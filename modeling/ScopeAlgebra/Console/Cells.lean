import ScopeAlgebra.Text.Width

/-!
# Cells of a console

Characters take cells of a console, one or two each or none. A joiner hides the character behind it,
and a selector widens the character before it when that one has a wide form. Characters that stay
together when a text is divided are a cluster: one that takes cells and those behind it that take
none.
-/

namespace ScopeAlgebra.Cells

/-- Whether a character would ring, move back, or move to another line or page. -/
def isCursorControl (c : Char) : Bool := ['\x07', '\x08', '\x0b', '\x0c', '\r'].contains c

/-- Characters without those that would move the cursor. -/
def withoutControls (cs : List Char) : List Char := cs.filter (!isCursorControl ·)

/-- The character that joins the next one to the one before. -/
def joiner : Char := '\u200d'

/-- The character that selects the emoji form of the one before. -/
def selector : Char := '\ufe0f'

/-- The cells that a selector adds behind the given character. -/
def widening (last? : Option Char) : Nat := if last?.any Text.isWidened then 1 else 0

/-- The cells that characters take behind the last one that took some. -/
def sizeAfter (last? : Option Char) : List Char → Nat
  | [] => 0
  | c :: rest =>
    if c = joiner then
      match rest with
      | [] => 0
      | _ :: rest => sizeAfter last? rest
    else if c = selector then widening last? + sizeAfter none rest
    else if Text.width c = 0 then sizeAfter last? rest
    else Text.width c + sizeAfter (some c) rest

/-- The cells that characters take. -/
def size (cs : List Char) : Nat := sizeAfter none cs

/-! ## Clusters -/

/-- How many characters belong together, and the cells that they take. -/
structure Cluster where
  count : Nat
  width : Nat
  deriving DecidableEq, Repr

/-- A cluster with more characters and cells. -/
def Cluster.extend (count width : Nat) (k : Cluster) : Cluster := ⟨k.count + count, k.width + width⟩

/-- The clusters of characters behind an unfinished one and behind the last character that took
cells. -/
def clustersAfter (last? : Option Char) (k : Cluster) : List Char → List Cluster
  | [] => [k]
  | c :: rest =>
    if c = joiner then
      match rest with
      | [] => [k.extend 1 0]
      | _ :: rest => clustersAfter last? (k.extend 2 0) rest
    else if c = selector then clustersAfter none (k.extend 1 (widening last?)) rest
    else if Text.width c = 0 then clustersAfter last? (k.extend 1 0) rest
    else k :: clustersAfter (some c) ⟨1, Text.width c⟩ rest

/-- The clusters of characters. -/
def clusters : List Char → List Cluster
  | [] => []
  | c :: rest => clustersAfter (if Text.width c = 0 then none else some c) ⟨1, Text.width c⟩ rest

/-- The numbers of characters in pieces of at most the given width, behind an unfinished piece. -/
def piecesAfter (width : Nat) (piece : Cluster) : List Cluster → List Nat
  | [] => [piece.count]
  | k :: rest =>
    if piece.width + k.width ≤ width then piecesAfter width (piece.extend k.count k.width) rest
    else piece.count :: piecesAfter width k rest

/-- How many characters fit into the given width, and whether half of a wide one would. -/
def fitting : Nat → List Cluster → Nat × Bool
  | _, [] => (0, false)
  | width, k :: rest =>
    if width = 0 then (0, false)
    else if k.width ≤ width then
      let (count, half) := fitting (width - k.width) rest
      (k.count + count, half)
    else (0, true)

/-- The characters that fit into the given width; a blank stands for half of a wide one. -/
def crop (width : Nat) (cs : List Char) : List Char :=
  if size cs ≤ width then cs
  else
    let (count, half) := fitting width (clusters cs)
    cs.take count ++ if half then [' '] else []

end ScopeAlgebra.Cells
