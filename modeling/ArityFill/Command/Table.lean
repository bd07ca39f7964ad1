import ArityFill.Command.Markup
import ArityFill.Text.Binary64

/-! # Tables

    A table has a row of headings and rows of cells. A column is as wide as its widest line, with
    one blank on each side, and everything is aligned to the left. If that is more than a terminal
    holds, the widest columns are narrowed and their cells are broken into lines.
-/

namespace ArityFill.Table

/-! ## Widths -/

/-- The columns of a terminal. -/
def terminalWidth : Nat := 200

/-- The blanks beside the text of a cell. -/
def padding : Nat := 2

/-- The columns that are left for cells beside the vertical lines of a table. -/
def room (count : Nat) : Nat :=
  terminalWidth - (count + 1)

/-- The widths of two rows together, column by column. -/
def widen : List Nat → List Nat → List Nat
  | w :: ws, v :: vs => max w v :: widen ws vs
  | [], vs => vs
  | ws, [] => ws

/-- The widths that the cells of each column ask for. -/
def wanted (rows : List (List Styled)) : List Nat :=
  rows.foldl (fun ws row => widen ws (row.map fun c => Text.broadest c.chars + padding)) []

/-- The columns that all widths take together. -/
def total (ws : List Nat) : Nat :=
  ws.foldr (· + ·) 0

/-- Takes an excess evenly from the columns of the greatest width, given how many of them are still
    to come and what each can lose at most. -/
def takeFrom (greatest most : Nat) : Nat → Nat → List Nat → List Nat
  | _, _, [] => []
  | excess, count, w :: ws =>
    if w = greatest then
      let share := min most (Binary64.roundDiv excess count)
      (w - share) :: takeFrom greatest most (excess - share) (count - 1) ws
    else w :: takeFrom greatest most excess count ws

/-- Narrows the widest columns down to the next ones in width, but no more than is needed. -/
def narrowOnce (excess : Nat) (ws : List Nat) : List Nat :=
  let greatest := ws.foldl max 0
  let next := (ws.filter (· ≠ greatest)).foldl max 0
  takeFrom greatest (min excess (greatest - next)) excess (ws.filter (· = greatest)).length ws

/-- Narrows columns until they fit a width. Every step takes at least one column away, so the
    excess at the start bounds their number. -/
def narrow (width : Nat) : Nat → List Nat → List Nat
  | 0, ws => ws
  | steps + 1, ws =>
    if total ws ≤ width then ws else narrow width steps (narrowOnce (total ws - width) ws)

/-- The widths of the columns without the blanks beside the text. -/
def widths (rows : List (List Styled)) : List Nat :=
  let ws := wanted rows
  let limit := room ws.length
  let ws := ws.map (min limit)
  (narrow limit (total ws - limit) ws).map (· - padding)

/-! ## Lines -/

/-- A horizontal line: its left end, what is repeated, what separates columns, its right end. -/
def rule (left fill between right : Char) (ws : List Nat) : String :=
  let parts := ws.map fun w => List.replicate (w + padding) fill
  String.ofList (left :: [between].intercalate parts ++ [right])

/-- The lines of the cells of a row. -/
def cellLines : List Nat → List Styled → Except Fault (List (List (List Char)))
  | w :: ws, c :: cs =>
    match c.render w, cellLines ws cs with
    | .ok ls, .ok rest => .ok (ls :: rest)
    | .error f, _ => .error f
    | _, .error f => .error f
  | _, _ => .ok []

/-- One line of a row, given the lines of its cells. -/
def rowLine (bar : Char) (ws : List Nat) (cells : List (List (List Char))) (i : Nat) : String :=
  let parts := (ws.zip cells).map fun (w, lines) =>
    ' ' :: (lines[i]?.getD (List.replicate w ' ')) ++ [' ']
  String.ofList (bar :: [bar].intercalate parts ++ [bar])

/-- The lines of a row: as many as its tallest cell has. -/
def rowLines (bar : Char) (ws : List Nat) (row : List Styled) : Except Fault (List String) :=
  (cellLines ws row).map fun cells =>
    let height := (cells.map List.length).foldl max 1
    (List.range height).map (rowLine bar ws cells)

/-- The lines of several rows. -/
def rowsLines (bar : Char) (ws : List Nat) : List (List Styled) → Except Fault (List String)
  | [] => .ok []
  | r :: rs =>
    match rowLines bar ws r, rowsLines bar ws rs with
    | .ok ls, .ok rest => .ok (ls ++ rest)
    | .error f, _ => .error f
    | _, .error f => .error f

/-- The lines of a table. -/
def lines (headings : List Styled) (rows : List (List Styled)) : Except Fault (List String) :=
  let ws := widths (headings :: rows)
  match rowLines '┃' ws headings, rowsLines '│' ws rows with
  | .ok head, .ok body =>
    .ok ([rule '┏' '━' '┳' '┓' ws] ++ head ++ [rule '┡' '━' '╇' '┩' ws] ++ body ++
      [rule '└' '─' '┴' '┘' ws])
  | .error f, _ => .error f
  | _, .error f => .error f

/-- The cells of a row of marked-up texts. -/
def cells : List String → Except Fault (List Styled)
  | [] => .ok []
  | s :: ss =>
    match Markup.plain s, cells ss with
    | .ok c, .ok cs => .ok (c :: cs)
    | .error f, _ => .error f
    | _, .error f => .error f

/-- The cells of rows of marked-up texts. -/
def cellRows : List (List String) → Except Fault (List (List Styled))
  | [] => .ok []
  | r :: rs =>
    match cells r, cellRows rs with
    | .ok c, .ok cs => .ok (c :: cs)
    | .error f, _ => .error f
    | _, .error f => .error f

/-- The lines of a table of marked-up texts. -/
def render (headings : List String) (rows : List (List String)) : Except Fault (List String) :=
  match cells headings, cellRows rows with
  | .ok hs, .ok rs => lines hs rs
  | .error f, _ => .error f
  | _, .error f => .error f

end ArityFill.Table
