import ApiStore.Console.Markup
import ApiStore.Text.Width
/-
`Frame.lean` -- panels and tables of a console.

Nothing is wrapped: a frame is as wide as what it holds. All widths are in cells. A
column is as wide as its widest line, its heading included; a row is as high as its
highest cell.
-/
set_option autoImplicit false

namespace ApiStore.Console

/-! ## 1. Lines -/

/-- A number of equal characters. -/
def run (c : Char) (n : Nat) : String := String.ofList (List.replicate n c)

/-- A line in which each tab reaches to the next multiple of eight columns. -/
def expandTabs (column : Nat) : List Char → List Char
  | [] => []
  | c :: rest =>
    if c = '\t' then
      let blanks := 8 - column % 8
      List.replicate blanks ' ' ++ expandTabs (column + blanks) rest
    else c :: expandTabs (column + Text.charCells c) rest

/-- The lines that a marked text shows. -/
def lines (markup : String) : Except MarkupError (List String) :=
  (plainText markup).map fun shown =>
    ((String.ofList shown).splitOn "\n").map fun line => String.ofList (expandTabs 0 line.toList)

/-- A marked text as it is printed, the end of its last line included. -/
def printed (markup : String) : Except MarkupError String :=
  (lines markup).map fun shown => "\n".intercalate shown ++ "\n"

/-- The cells of the widest line. -/
def widest (shown : List String) : Nat := (shown.map Text.cells).foldl max 0

/-! ## 2. Alignment -/

/-- Where a text stands in a wider space. -/
inductive Alignment where
  | left
  | center
  | right
  deriving DecidableEq, Repr

/-- A text with `fill` around it, up to a width. In the centre, an odd space goes to the right. -/
def aligned (fill : Char) (width : Nat) (s : String) : Alignment → String
  | .left => s ++ run fill (width - Text.cells s)
  | .right => run fill (width - Text.cells s) ++ s
  | .center =>
    let space := width - Text.cells s
    run fill (space / 2) ++ s ++ run fill (space - space / 2)

/-! ## 3. Panels -/

/-- A text in a frame, with a title in the upper edge. -/
def panel (title content : String) : Except MarkupError String :=
  (lines content).map fun shown =>
    let width := max (widest shown + 2) (Text.cells title + 4)
    let edge := "╭─" ++ aligned '─' (width - 2) (" " ++ title ++ " ") .center ++ "─╮\n"
    let body := shown.map fun line => "│ " ++ aligned ' ' (width - 2) line .left ++ " │\n"
    edge ++ String.join body ++ "╰" ++ run '─' width ++ "╯\n"

/-! ## 4. Tables -/

/-- A column of a table. -/
structure Column where
  heading : String
  alignment : Alignment

/-- A cell, as its lines. -/
abbrev Cell := List String

/-- A line across a table: what stands between, and at the ends of, runs over the columns. -/
def rule (fill : Char) (opening joint closing : String) (widths : List Nat) : String :=
  opening ++ joint.intercalate (widths.map fun w => run fill (w + 2)) ++ closing ++ "\n"

/-- The lines of a row between vertical bars. -/
def rowText (bar : String) (columns : List Column) (widths : List Nat) (row : List Cell) : String :=
  let height := (row.map List.length).foldl max 1
  String.join ((List.range height).map fun i =>
    let parts := (columns.zip (widths.zip row)).map fun (column, width, cell) =>
      " " ++ aligned ' ' width (cell.getD i "") column.alignment ++ " "
    bar ++ bar.intercalate parts ++ bar ++ "\n")

/-- A table of columns under a title. -/
def table (title : String) (columns : List Column) (rows : List (List Cell)) : String :=
  let headings := columns.map fun c => [c.heading]
  let widths := rows.foldl (fun ws row => (ws.zip row).map fun (w, cell) => max w (widest cell))
    (headings.map widest)
  let width := (widths.map (· + 3)).foldr (· + ·) 0 + 1
  aligned ' ' width title .center ++ "\n" ++
    rule '━' "┏" "┳" "┓" widths ++ rowText "┃" columns widths headings ++
      rule '━' "┡" "╇" "┩" widths ++
    String.join (rows.map (rowText "│" columns widths)) ++ rule '─' "└" "┴" "┘" widths

end ApiStore.Console
