import ScopeAlgebra.Text.Suffix

/-!
# Wildcards in names

In a wildcard `*` stands for any text and `?` for any one character, line breaks and slashes
included; every other character stands for itself. `accepts` says what a wildcard takes; `isMatch`
finds the answer without trying a suffix twice, and `isMatch_eq_accepts` says that it is the same
one.
-/

namespace ScopeAlgebra.Wildcard

/-- Whether a wildcard matches the whole of a text. -/
def accepts : List Char → List Char → Bool
  | [], text => text.isEmpty
  | '*' :: rest, text => Text.someSuffix (fun _ => true) (accepts rest) text
  | '?' :: rest, text => Text.afterOne (fun _ => true) (accepts rest) text
  | c :: rest, text => Text.afterOne (· = c) (accepts rest) text

/-- Whether a wildcard matches, for every suffix of a text. -/
def answers (text : List Char) : List Char → List Bool
  | [] => Text.answers List.isEmpty text
  | '*' :: rest => Text.spread (fun _ => true) text (answers text rest)
  | '?' :: rest => Text.shift (fun _ => true) text (answers text rest)
  | c :: rest => Text.shift (· = c) text (answers text rest)

/-- Whether a wildcard matches a name. -/
def isMatch (wildcard name : String) : Bool := Text.whole (answers name.toList wildcard.toList)

theorem answers_eq (text wildcard : List Char) :
    answers text wildcard = Text.answers (accepts wildcard) text := by
  fun_induction answers text wildcard with
  | case1 => rfl
  | case2 rest ih => rw [ih, Text.spread_answers]; rfl
  | case3 rest ih => rw [ih, Text.shift_answers]; rfl
  | case4 c rest star one ih =>
    rw [ih, Text.shift_answers]
    congr 1
    funext text
    rw [accepts.eq_4 _ _ _ star one]

/-- A wildcard matches a name when it takes the whole of it. -/
theorem isMatch_eq_accepts (wildcard name : String) :
    isMatch wildcard name = accepts wildcard.toList name.toList := by
  rw [isMatch, answers_eq, Text.whole_answers]

end ScopeAlgebra.Wildcard
