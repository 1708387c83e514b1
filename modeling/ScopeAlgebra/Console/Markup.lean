import ScopeAlgebra.Console.Cells
import ScopeAlgebra.Console.Emoji
import ScopeAlgebra.Console.Literal
import ScopeAlgebra.Console.Marked
import ScopeAlgebra.Console.Style
import ScopeAlgebra.Text.Letter
import ScopeAlgebra.Text.Numeral

/-!
# Console markup

Markup is text with style tags in square brackets: `[bold]` opens a style, `[/bold]` or `[/]` closes
one, and a backslash in front of a tag takes its meaning away. A tag that starts with `@` names a
handler and may give it arguments. `escape` protects a text from being read as markup and `read?`
gives the characters of a markup with the spans of its styles; a closing tag that closes nothing is
a fault, and so are arguments that are no literal.
-/

namespace ScopeAlgebra.Markup

/-- A part of a markup: a run of plain characters, or a tag with the backslashes in front of it. -/
inductive Token where
  | text (chars : List Char)
  | tag (backslashes : Nat) (body : List Char)
  deriving DecidableEq, Repr

/-! ## Tokens -/

/-- Whether a character can be the first of a tag. -/
def startsTag (c : Char) : Bool := ('a' ≤ c && c ≤ 'z') || c = '#' || c = '/' || c = '@'

/-- Reads a tag: its body and the rest. -/
def tag? : List Char → Option (List Char × List Char)
  | '[' :: c :: rest =>
    if startsTag c then
      let inside (d : Char) : Bool := d ≠ '[' && d ≠ ']'
      match rest.dropWhile inside with
      | ']' :: after => some (c :: rest.takeWhile inside, after)
      | _ => none
    else none
  | _ => none

/-- A tag that was read is shorter by its brackets and its body. -/
theorem length_of_tag? {cs body after : List Char} (h : tag? cs = some (body, after)) :
    after.length < cs.length := by
  unfold tag? at h
  split at h
  next c rest =>
    split at h
    · simp only at h
      split at h
      next tail hdrop =>
        simp only [Option.some.injEq, Prod.mk.injEq] at h
        have hsub := (List.dropWhile_sublist (fun d => decide (d ≠ '[') && decide (d ≠ ']'))
          (l := rest)).length_le
        rw [hdrop] at hsub
        rw [← h.2]
        simp only [List.length_cons] at hsub ⊢
        omega
      · contradiction
    · contradiction
  · contradiction

/-- The tokens of a markup, behind plain characters (last one first) and backslashes that have been
read already. -/
def tokensFrom (plain : List Char) (backslashes : Nat) (cs : List Char) : List Token :=
  match cs with
  | [] => [.text (plain.reverse ++ List.replicate backslashes '\\')]
  | c :: rest =>
    match _h : tag? (c :: rest) with
    | some (body, after) => .text plain.reverse :: .tag backslashes body :: tokensFrom [] 0 after
    | none =>
      if c = '\\' then tokensFrom plain (backslashes + 1) rest
      else tokensFrom (c :: (List.replicate backslashes '\\' ++ plain)) 0 rest
termination_by cs.length
decreasing_by
  · exact length_of_tag? _h
  · simp
  · simp

/-- Writes the tags of a text so that they are shown and not obeyed. -/
def escapeFrom (backslashes : Nat) (cs : List Char) : List Char :=
  match cs with
  | [] => List.replicate backslashes '\\'
  | c :: rest =>
    match _h : tag? (c :: rest) with
    | some (body, after) =>
      List.replicate (2 * backslashes + 1) '\\' ++ '[' :: body ++ ']' :: escapeFrom 0 after
    | none =>
      if c = '\\' then escapeFrom (backslashes + 1) rest
      else List.replicate backslashes '\\' ++ c :: escapeFrom 0 rest
termination_by cs.length
decreasing_by
  · exact length_of_tag? _h
  · simp
  · simp

/-- Doubles a single backslash at the end, which would otherwise escape a tag that follows. -/
def closeBackslash (cs : List Char) : List Char :=
  match cs.reverse with
  | ['\\'] => ['\\', '\\']
  | '\\' :: c :: _ => if c = '\\' then cs else cs ++ ['\\']
  | _ => cs

/-- A text as markup that shows it. -/
def escape (s : String) : String := String.ofList (closeBackslash (escapeFrom 0 s.toList))

/-! ## Tags -/

/-- A tag that is open: its name as it is compared, and what stands behind an equals sign. -/
structure Tag where
  name : String
  parameters? : Option String
  deriving DecidableEq, Repr

/-- The style that a tag stands for. -/
def Tag.definition (t : Tag) : String :=
  match t.parameters? with
  | some parameters => t.name ++ " " ++ parameters
  | none => t.name

/-- Whether a tag names a handler. -/
def Tag.isHandler (t : Tag) : Bool := Text.hasHead "@" t.name

/-- Whether a character can stand in the name of a handler's function. -/
def isFunctionChar (c : Char) : Bool := Text.isLetter c || Text.isNumeral c || c = '_' || c = '.'

/-- The arguments of a handler, given the text behind the equals sign: what stands in brackets
behind the name of a function, and otherwise the whole text. -/
def argumentsOf (cs : List Char) : List Char :=
  match cs.dropWhile isFunctionChar with
  | [] => ['(', ')']
  | '(' :: rest =>
    if rest.getLast? = some ')' && !rest.contains '\n' then '(' :: rest else cs
  | _ => cs

/-- Whether a tag can be closed. A handler is set up by then, so its arguments have to be a
literal. -/
def Tag.canClose (t : Tag) : Bool :=
  match t.isHandler, t.parameters? with
  | false, _ | _, none | _, some "" => true
  | true, some parameters => isLiteral (argumentsOf (Text.trim parameters).toList)

/-- A tag that is open, and the position where it was opened. -/
structure OpenTag where
  tag : Tag
  start : Nat
  deriving DecidableEq, Repr

/-- The span of an open tag up to a position. The style of a handler can always be shown. -/
def OpenTag.span (stop : Nat) (t : OpenTag) : Span :=
  ⟨t.start, stop, Style.breaksOff t.tag.definition⟩

/-- The open tags without the newest one of a name, and that one. -/
def takeOpen? (name : String) : List OpenTag → Option (OpenTag × List OpenTag)
  | [] => none
  | t :: rest =>
    if t.tag.name = name then some (t, rest)
    else (takeOpen? name rest).map fun (found, rest) => (found, t :: rest)

/-- Splits a tag at its first equals sign. -/
def splitBody (body : List Char) : String × Option String :=
  (String.ofList (body.takeWhile (· ≠ '=')),
    (body.dropWhile (· ≠ '=')).tail?.map String.ofList)

/-- The name of a tag as it is compared. -/
def comparedName? (name : String) : Option String := (Style.normalize name).toOption

/-- What has been read of a markup: the characters (last one first), how many they are, the tags
that are open (newest first) and the spans of those that were closed. -/
structure Reading where
  shown : List Char := []
  length : Nat := 0
  openTags : List OpenTag := []
  spans : List Span := []

namespace Reading

/-- Reads plain characters. -/
def plain (cs : List Char) (r : Reading) : Reading :=
  { r with shown := cs.reverse ++ r.shown, length := r.length + cs.length }

/-- Closes a tag, given those that stay open. -/
def close? (closed : OpenTag) (others : List OpenTag) (r : Reading) : Option Reading :=
  if closed.tag.canClose then
    some { r with openTags := others, spans := closed.span r.length :: r.spans }
  else none

/-- Reads the body of a tag; nothing when it is at fault. -/
def tag? (body : List Char) (r : Reading) : Option Reading :=
  match body with
  | '/' :: body =>
    let name := Text.trim (splitBody body).1
    if name.isEmpty then
      match r.openTags with
      | [] => none
      | newest :: others => r.close? newest others
    else do
      let (closed, others) ← takeOpen? (← comparedName? name) r.openTags
      r.close? closed others
  | body =>
    let (name, parameters?) := splitBody body
    (comparedName? name).map fun name =>
      { r with openTags := ⟨⟨name, parameters?⟩, r.length⟩ :: r.openTags }

/-- The text that has been read; tags that are open end with it. -/
def finish (r : Reading) : Marked :=
  ⟨r.shown.reverse, r.openTags.map (OpenTag.span r.length) ++ r.spans⟩

end Reading

/-! ## What is shown -/

/-- Plain characters without the backslash in front of a bracket, which is taken for an escape. -/
def unescaped : List Char → List Char
  | '\\' :: '[' :: rest => '[' :: unescaped rest
  | c :: rest => c :: unescaped rest
  | [] => []

/-- What a run of plain characters shows. -/
def shownRun (cs : List Char) : List Char :=
  Cells.withoutControls (Emoji.replaceCodes (unescaped cs))

/-- Reads one token. -/
def readToken? (r : Reading) : Token → Option Reading
  | .text chars => some (r.plain (shownRun chars))
  | .tag backslashes body =>
    let r := r.plain (List.replicate (backslashes / 2) '\\')
    if backslashes % 2 = 1 then some (r.plain (shownRun ('[' :: body ++ [']']))) else r.tag? body

/-- The text that a markup stands for; nothing when the markup is at fault. -/
def read? (markup : String) : Option Marked :=
  ((tokensFrom [] 0 markup.toList).foldlM readToken? {}).map Reading.finish

end ScopeAlgebra.Markup
