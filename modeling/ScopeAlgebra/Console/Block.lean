import ScopeAlgebra.Console.Columns
import ScopeAlgebra.Console.Highlight
import ScopeAlgebra.Console.Layout
import ScopeAlgebra.Console.Markup
import ScopeAlgebra.Json.Printer

/-!
# Console output

A program writes blocks of markup: single texts and tables. What is shown of them are lines of text,
titles and rows of cells. A title may take several lines, of which the last one counts as the title.
When the markup of a block cannot be shown, the output ends in front of it.
-/

namespace ScopeAlgebra

/-- A block of markup. -/
inductive Block where
  | text (markup : String)
  | table (title : String) (header : List String) (rows : List (List String))
  deriving DecidableEq, Repr

/-- What is shown on the console. -/
inductive Line where
  | text (s : String)
  | title (s : String)
  | row (cells : List String)
  deriving DecidableEq, Repr

/-- The rows of a table that show the cells of one row, one for each line of the highest cell. -/
def rowsOf (cells : List (List String)) : List Line :=
  (List.range (Columns.greatest (cells.map List.length))).map fun index =>
    .row (cells.map fun lines => lines.getD index "")

/-- The lines of a title. -/
def titleOf (lines : List String) : List Line :=
  lines.dropLast.map .text ++ lines.getLast?.toList.map .title

/-- The lines that a block shows on a console of the given width. -/
def Block.linesWithin? (width : Nat) : Block → Option (List Line)
  | .text markup => do
    let lines ← Layout.textLines? width (Highlight.mark (← Markup.read? markup))
    return lines.map .text
  | .table title header rows => do
    let title ← Markup.read? title
    let rows ← (header :: rows).mapM fun cells => cells.mapM Markup.read?
    let widths := Columns.widthsWithin width (rows.map fun cells => cells.map Marked.chars)
    let title ← Layout.titleLines? width (Columns.tableWidth widths) title
    let rows ← rows.mapM fun cells =>
      (widths.zip cells).mapM fun (width, cell) => Layout.cellLines? width cell
    return titleOf title ++ rows.flatMap rowsOf

/-- The width of the console; few lines are wider. -/
def consoleWidth : Nat := 2000

/-- The lines that a block shows. -/
def Block.lines? (block : Block) : Option (List Line) := block.linesWithin? consoleWidth

/-- The lines of blocks up to the first that cannot be shown, and whether all were shown. -/
def Block.linesOf : List Block → List Line × Bool
  | [] => ([], true)
  | b :: rest =>
    match b.lines? with
    | none => ([], false)
    | some lines =>
      let (more, finished) := linesOf rest
      (lines ++ more, finished)

/-- A line as it is printed. -/
def Line.render : Line → String
  | .text s | .title s => s
  | .row cells => " | ".intercalate cells

/-- What a program leaves behind: its exit code and its output, a JSON document or lines. -/
inductive Outcome where
  | document (exitCode : Nat) (json : Json)
  | lines (exitCode : Nat) (shown : List Line)

namespace Outcome

/-- The exit code. -/
def exitCode : Outcome → Nat
  | .document code _ | .lines code _ => code

/-- The text that is printed. -/
def render : Outcome → String
  | .document _ json => json.pretty ++ "\n"
  | .lines _ shown => String.join (shown.map fun line => line.render ++ "\n")

/-- The outcome of showing blocks; a block that cannot be shown is a failure. -/
def ofBlocks (exitCode : Nat) (blocks : List Block) : Outcome :=
  let (shown, finished) := Block.linesOf blocks
  .lines (if finished then exitCode else 1) shown

/-- The outcome of a program that was called wrongly. -/
def misuse : Outcome := .lines 2 []

/-- The outcome of a program that gives up without a word. -/
def silentFailure : Outcome := .lines 1 []

/-- The outcome of a program that gives up with a message. -/
def failure (message : String) : Outcome :=
  ofBlocks 1 [.text ("[red]Error: " ++ Markup.escape message ++ "[/red]")]

end Outcome

end ScopeAlgebra
