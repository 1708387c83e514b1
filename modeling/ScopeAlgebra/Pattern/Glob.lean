import ScopeAlgebra.Text.Suffix

/-!
# Path globs

A glob is read left to right into pieces: `**/` stands for any number of leading directories, `**`
for any text on one line, `*` for any text within a segment, `?` for one character within a segment,
and every other character for itself. `accepts` says what the pieces take; `isMatch` finds the
answer without trying a suffix twice, and `isMatch_eq_accepts` says that it is the same one.
-/

namespace ScopeAlgebra.Glob

/-- One piece of a glob. -/
inductive Piece where
  /-- Nothing, or text on one line that ends in a slash. -/
  | directories
  /-- Any text on one line. -/
  | anything
  /-- Any text without a slash. -/
  | segment
  /-- One character other than a slash. -/
  | one
  /-- The character itself. -/
  | literal (c : Char)
  deriving DecidableEq, Repr

/-- The pieces of a glob, the longest piece first at every position. -/
def pieces : List Char → List Piece
  | '*' :: '*' :: '/' :: rest => .directories :: pieces rest
  | '*' :: '*' :: rest => .anything :: pieces rest
  | '*' :: rest => .segment :: pieces rest
  | '?' :: rest => .one :: pieces rest
  | c :: rest => .literal c :: pieces rest
  | [] => []

/-- Whether a piece takes a leading part of a path of which `accept` takes the rest. -/
def Piece.accepts (accept : List Char → Bool) : Piece → List Char → Bool
  | .directories => fun path =>
    accept path || Text.someSuffix (· ≠ '\n') (Text.afterOne (· = '/') accept) path
  | .anything => Text.someSuffix (· ≠ '\n') accept
  | .segment => Text.someSuffix (· ≠ '/') accept
  | .one => Text.afterOne (· ≠ '/') accept
  | .literal c => Text.afterOne (· = c) accept

/-- Whether the pieces match the whole of a path. -/
def accepts : List Piece → List Char → Bool
  | [] => List.isEmpty
  | piece :: rest => piece.accepts (accepts rest)

/-- The answers of a piece for every suffix of a path, from those of the pieces behind it. -/
def Piece.answers (path : List Char) (row : List Bool) : Piece → List Bool
  | .directories => Text.either row (Text.spread (· ≠ '\n') path (Text.shift (· = '/') path row))
  | .anything => Text.spread (· ≠ '\n') path row
  | .segment => Text.spread (· ≠ '/') path row
  | .one => Text.shift (· ≠ '/') path row
  | .literal c => Text.shift (· = c) path row

/-- Whether the pieces match, for every suffix of a path. -/
def answers (path : List Char) : List Piece → List Bool
  | [] => Text.answers List.isEmpty path
  | piece :: rest => piece.answers path (answers path rest)

/-- Whether a glob matches a path. -/
def isMatch (glob path : String) : Bool := Text.whole (answers path.toList (pieces glob.toList))

theorem Piece.answers_eq (path : List Char) (accept : List Char → Bool) (piece : Piece) :
    piece.answers path (Text.answers accept path) = Text.answers (piece.accepts accept) path := by
  cases piece with
  | directories =>
    simp only [Piece.answers, Text.shift_answers, Text.spread_answers, Text.either_answers]
    rfl
  | anything => exact Text.spread_answers ..
  | segment => exact Text.spread_answers ..
  | one => exact Text.shift_answers ..
  | literal c => exact Text.shift_answers ..

theorem answers_eq (path : List Char) (pieces : List Piece) :
    answers path pieces = Text.answers (accepts pieces) path := by
  induction pieces with
  | nil => rfl
  | cons piece rest ih => rw [answers, ih, Piece.answers_eq]; rfl

/-- A glob matches a path when its pieces take the whole of it. -/
theorem isMatch_eq_accepts (glob path : String) :
    isMatch glob path = accepts (pieces glob.toList) path.toList := by
  rw [isMatch, answers_eq, Text.whole_answers]

end ScopeAlgebra.Glob
