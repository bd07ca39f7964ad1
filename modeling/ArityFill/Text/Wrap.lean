import ArityFill.Text.Column
import ArityFill.Text.Segment
import ArityFill.Text.Space

/-! # Breaking text into lines

    A text is broken at its line ends and between words. Tabs lead to the next multiple of eight
    columns.
-/

namespace ArityFill.Text

/-- The distance between two tab stops. -/
def tabStop : Nat := 8

/-- The tab stop at a column or next after it. -/
def nextStop (column : Nat) : Nat :=
  (column + (tabStop - 1)) / tabStop * tabStop

/-- The words of a line, each with the blanks after it and the first also with the blanks before it,
    given whether a character that is not blank has been read. -/
def wordsFrom (inside : Bool) : List Char → List (List Char)
  | [] => []
  | c :: cs =>
    let begun := inside || !isBlank c
    match wordsFrom begun cs with
    | [] => [[c]]
    | w :: ws =>
      if begun && isBlank c && !w.head?.any isBlank then [c] :: w :: ws else (c :: w) :: ws

/-- A text without the blanks at its end. -/
def trimEnd (cs : List Char) : List Char :=
  (cs.reverse.dropWhile isBlank).reverse

/-- The characters before which a line of words is broken, given the number of characters that were
    read and the columns that the line takes so far. A word goes to the next line if without the
    blanks after it it does not fit into this one. -/
def breaks (width : Nat) : Nat → Nat → List (List Char) → List Nat
  | _, _, [] => []
  | place, used, w :: ws =>
    if place = 0 ∨ used + columns (trimEnd w) ≤ width then
      breaks width (place + w.length) (used + columns w) ws
    else place :: breaks width (place + w.length) (columns w) ws

/-- The characters that end a line when a text is measured. -/
def isLineEnd (c : Char) : Bool :=
  c = '\n' ∨ ('\x1c' ≤ c ∧ c ≤ '\x1e') ∨ c = '\x85' ∨ c = '\u2028' ∨ c = '\u2029'

/-- The columns of the widest line of a text. -/
def broadest (cs : List Char) : Nat :=
  ((pieces '\n' (cs.map fun c => if isLineEnd c then '\n' else c)).map columns).foldl max 0

end ArityFill.Text
