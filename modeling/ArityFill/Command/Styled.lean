import ArityFill.Command.Style
import ArityFill.Text.Wrap

/-! # Styled text

    A text whose parts have styles is shown piece by piece, and every piece is measured on its own.
    The lines of such a text are laid out in a width as those of any text, with the styles carried
    along.
-/

namespace ArityFill

/-- A part of a text that has a style: from a character up to another. -/
structure Stretch where
  /-- The first character. -/
  start : Nat
  /-- The character after the last. -/
  stop : Nat
  /-- The style as it is written. -/
  style : List Char

/-- A text and the styles of its parts. -/
structure Styled where
  /-- The characters. -/
  chars : List Char
  /-- The parts that have styles. -/
  stretches : List Stretch := []

namespace Styled

/-! ## Cutting and joining -/

/-- The part of a text from a character up to another. A style that has nothing in it is lost. -/
def slice (s : Styled) (start stop : Nat) : Styled where
  chars := (s.chars.drop start).take (stop - start)
  stretches := s.stretches.filterMap fun p =>
    let first := max p.start start - start
    let last := min p.stop stop - start
    if first < last then some ⟨first, last, p.style⟩ else none

/-- The parts of a text between some of its characters. -/
def divide (s : Styled) (offsets : List Nat) : List Styled :=
  if offsets.isEmpty then [s]
  else ((0 :: offsets).zip (offsets ++ [s.chars.length])).map fun (start, stop) =>
    s.slice start stop

/-- The places of a character in a text. -/
def places (c : Char) (cs : List Char) : List Nat :=
  (cs.zip (List.range cs.length)).filterMap fun (d, i) => if d = c then some i else none

/-- The lines of a text, without their ends. -/
def lines (s : Styled) : List Styled :=
  (s.divide ((places '\n' s.chars).flatMap fun i => [i, i + 1])).filter fun l => l.chars ≠ ['\n']

/-- Two texts one after the other. -/
def append (s t : Styled) : Styled where
  chars := s.chars ++ t.chars
  stretches := s.stretches ++ t.stretches.map fun p =>
    ⟨p.start + s.chars.length, p.stop + s.chars.length, p.style⟩

/-- The stretches that begin within a length, as far as they reach within it. -/
def trimmed (s : Styled) (length : Nat) : List Stretch :=
  (s.stretches.filter fun p => p.start < length).map fun p => ⟨p.start, min p.stop length, p.style⟩

/-- The first characters of a text. -/
def take (s : Styled) (length : Nat) : Styled :=
  if length < s.chars.length then ⟨s.chars.take length, s.trimmed length⟩ else s

/-! ## Laying out -/

/-- A text followed by blanks in the styles in which it ends. -/
def extend (s : Styled) (blanks : Nat) : Styled where
  chars := s.chars ++ List.replicate blanks ' '
  stretches := s.stretches.map fun p =>
    if s.chars.length ≤ p.stop then ⟨p.start, p.stop + blanks, p.style⟩ else p

/-- Parts of a line, all but the last ending in a tab, put together with blanks up to the tab stops
    from a column on. -/
def joinTabs (column : Nat) : List Styled → Styled
  | [] => ⟨[], []⟩
  | [part] => part
  | part :: parts =>
    let part : Styled := { part with chars := part.chars.dropLast ++ [' '] }
    let reached := column + Text.columns part.chars
    let stop := Text.nextStop reached
    (part.extend (stop - reached)).append (joinTabs stop parts)

/-- A line with blanks in the place of its tabs. -/
def expandTabs (s : Styled) : Styled :=
  joinTabs 0 (s.divide ((places '\t' s.chars).map (· + 1)))

/-- A line without as many blanks at its end as it has characters beyond a width. -/
def shedBlanks (width : Nat) (s : Styled) : Styled :=
  let length := s.chars.length
  s.take (length - min (length - width) (length - (Text.trimEnd s.chars).length))

/-- A line that fits a width: a longer one is cut and ends in an ellipsis, a shorter one is followed
    by blanks. -/
def fit (width : Nat) (s : Styled) : Styled :=
  let used := Text.columns s.chars
  if width < used then
    let shown := Text.crop (width - 1) s.chars ++ ['…']
    ⟨shown, if shown.length < s.chars.length then s.trimmed shown.length else s.stretches⟩
  else { s with chars := s.chars ++ List.replicate (width - used) ' ' }

/-- The lines of a text in a width. -/
def layOut (width : Nat) (s : Styled) : List Styled :=
  s.lines.flatMap fun line =>
    let line := line.expandTabs
    (line.divide (Text.breaks width 0 0 (Text.wordsFrom false line.chars))).map fun part =>
      (part.shedBlanks width).fit width

/-! ## Showing -/

/-- The pieces of a text, cut wherever a style begins or ends, from a character on. -/
def cut (cuts : List Nat) (i : Nat) : List Char → List (List Char)
  | [] => []
  | c :: cs =>
    match cut cuts (i + 1) cs with
    | [] => [[c]]
    | p :: ps => if cuts.contains (i + 1) then [c] :: p :: ps else (c :: p) :: ps

/-- The pieces that are measured on their own. -/
def pieces (s : Styled) : List (List Char) :=
  cut (s.stretches.flatMap fun p => [p.start, p.stop]) 0 s.chars

/-- The columns that pieces take, each measured on its own. -/
def pieceColumns (ps : List (List Char)) : Nat :=
  ps.foldr (fun p n => Text.columns p + n) 0

/-- The front of some pieces, in as many columns as are free. -/
def front : Nat → List (List Char) → List (List Char)
  | _, [] => []
  | free, p :: ps =>
    let used := Text.columns p
    if used < free then p :: front (free - used) ps
    else if used = free then [p]
    else [Text.crop free p]

/-- The characters that are shown of a line in a width. Pieces can take more or less room than the
    line as a whole, so the line is fitted once more. -/
def shown (width : Nat) (s : Styled) : List Char :=
  let ps := if pieceColumns s.pieces ≤ width then s.pieces else front width s.pieces
  ps.flatten ++ List.replicate (width - pieceColumns ps) ' '

/-- The characters that are shown of all lines of a text in a width. A style that cannot be read is
    a fault if a line has it. -/
def render (width : Nat) (s : Styled) : Except Fault (List (List Char)) :=
  let ls := s.layOut width
  match ls.findSome? fun l => l.stretches.findSome? fun p => Style.fault? p.style with
  | some f => .error f
  | none => .ok (ls.map (shown width))

end Styled

end ArityFill
