import ArityFill.Text.Integer
import ArityFill.Text.Segment

/-! # Tokens of literals

    A literal is a number, a string, or one of a few names, or it is put together from others with
    brackets and commas. This module cuts the text of a literal into tokens. Only what a literal can
    hold is a token, so a text that holds anything else has no tokens.

    Blanks and comments separate tokens. A line ends a literal unless a bracket is open, and it must
    not be indented.
-/

namespace ArityFill.Literal

/-- A token. What a number or a string stands for does not matter, only its kind. -/
inductive Token where
  /-- A number without an imaginary unit. -/
  | real
  /-- A number with an imaginary unit. -/
  | imaginary
  /-- A string of characters, or of bytes. -/
  | text (bytes : Bool)
  /-- A name. -/
  | name (cs : List Char)
  /-- Three points. -/
  | ellipsis
  /-- A plus or a minus. -/
  | sign
  /-- An opening bracket. -/
  | opening (c : Char)
  /-- A closing bracket. -/
  | closing (c : Char)
  /-- A comma. -/
  | comma
  /-- A colon. -/
  | colon
  /-- The end of a line outside all brackets. -/
  | lineEnd
  deriving DecidableEq, Repr

/-! ## Numbers -/

/-- Whether a character can stand in a name. Every character outside ASCII counts. -/
def isNameChar (c : Char) : Bool :=
  c.isAlphanum || c = '_' || 0x80 ≤ c.toNat

/-- A hexadecimal digit. -/
def isHexDigit (c : Char) : Bool :=
  Text.isAsciiDigit c || ('a' ≤ c && c ≤ 'f') || ('A' ≤ c && c ≤ 'F')

/-- An octal digit. -/
def isOctalDigit (c : Char) : Bool :=
  '0' ≤ c && c ≤ '7'

/-- A binary digit. -/
def isBinaryDigit (c : Char) : Bool :=
  c = '0' || c = '1'

/-- The digits at the front of a text, with single underscores between them left out, and the rest.
    There has to be one. -/
def digits? (p : Char → Bool) (cs : List Char) : Option (List Char × List Char) :=
  let run := cs.takeWhile fun c => p c || c = '_'
  match Text.ungroup? run with
  | some (d :: ds) => some (d :: ds, cs.drop run.length)
  | _ => none

/-- A token followed by a rest that does not go on with a letter or a digit. -/
def ended (t : Token) (rest : List Char) : Option (Token × List Char) :=
  if rest.head?.any isNameChar then none else some (t, rest)

/-- A whole number in a base other than ten, after the letter of its base. -/
def based? (p : Char → Bool) (cs : List Char) : Option (Token × List Char) :=
  let body := if cs.head? = some '_' then cs.tail else cs
  (digits? p body).bind fun (_, rest) => ended .real rest

/-- The fraction at the front of a text and what follows it: whether there is a point, and digits
    after it or not. -/
def fraction? (cs : List Char) : Option (Bool × List Char) :=
  match cs with
  | '.' :: rest =>
    if rest.head?.any Text.isAsciiDigit then
      (digits? Text.isAsciiDigit rest).map fun (_, rest) => (true, rest)
    else some (true, rest)
  | _ => some (false, cs)

/-- The exponent at the front of a text, if there is one, and what follows it. -/
def exponent? (cs : List Char) : Option (Bool × List Char) :=
  match cs with
  | c :: rest =>
    if c = 'e' ∨ c = 'E' then
      (digits? Text.isAsciiDigit (Text.splitSign rest).2).map fun (_, rest) => (true, rest)
    else some (false, cs)
  | [] => some (false, cs)

/-- Whether digits can write a whole number in base ten: no zero leads other digits, and there are
    not too many of them. -/
def isWhole (ds : List Char) : Bool :=
  if ds.head? = some '0' then ds.all (· = '0') else ds.length ≤ Text.digitLimit

/-- What follows the whole part of a number in base ten. -/
def decimalTail? (whole rest : List Char) : Option (Token × List Char) := do
  let (point, rest) ← fraction? rest
  let (scaled, rest) ← exponent? rest
  match rest with
  | c :: after =>
    if c = 'j' ∨ c = 'J' then ended .imaginary after
    else if point || scaled || isWhole whole then ended .real rest
    else none
  | [] => if point || scaled || isWhole whole then some (.real, []) else none

/-- The number at the front of a text that begins with a digit, or with a point and a digit. -/
def number? (cs : List Char) : Option (Token × List Char) :=
  match cs with
  | '0' :: c :: rest =>
    if c = 'x' ∨ c = 'X' then based? isHexDigit rest
    else if c = 'o' ∨ c = 'O' then based? isOctalDigit rest
    else if c = 'b' ∨ c = 'B' then based? isBinaryDigit rest
    else decimal? cs
  | _ => decimal? cs
where
  /-- A number in base ten. -/
  decimal? (cs : List Char) : Option (Token × List Char) :=
    if cs.head? = some '.' then decimalTail? [] cs
    else (digits? Text.isAsciiDigit cs).bind fun (whole, rest) => decimalTail? whole rest

/-! ## Strings -/

/-- The inside of a string up to its closing quotes, and what follows them, given how many quotes
    close it and how many of them have been read. A backslash takes the next character with it, and
    a string that one quote closes ends before the end of its line. -/
def inside? (quote : Char) (size : Nat) : Nat → List Char → Option (List Char × List Char)
  | _, [] => none
  | seen, c :: cs =>
    if c = quote then
      if seen + 1 = size then some ([], cs)
      else (inside? quote size (seen + 1) cs).map fun (s, rest) => (c :: s, rest)
    else if c = '\n' ∧ size = 1 then none
    else if c = '\\' then
      match cs with
      | [] => none
      | d :: cs => (inside? quote size 0 cs).map fun (s, rest) => (c :: d :: s, rest)
    else (inside? quote size 0 cs).map fun (s, rest) => (c :: s, rest)

/-- The string at the front of a text that begins with a quote. The inside of a string that three
    quotes close is followed by the first two of them. -/
def quoted? (cs : List Char) : Option (List Char × List Char) :=
  match cs with
  | q :: a :: b :: rest =>
    if a = q ∧ b = q then inside? q 3 0 rest else inside? q 1 0 (a :: b :: rest)
  | q :: rest => inside? q 1 0 rest
  | [] => none

/-- Whether as many hexadecimal digits as are asked for stand at the front of a text. -/
def hasHex (count : Nat) (cs : List Char) : Bool :=
  (cs.take count).length = count && (cs.take count).all isHexDigit

/-- The value of hexadecimal digits. -/
def hexValue (cs : List Char) : Nat :=
  cs.foldl (fun n c => n * 16 + digit c) 0
where
  /-- The value of one of them. -/
  digit (c : Char) : Nat :=
    if Text.isAsciiDigit c then c.toNat - 0x30 else c.toLower.toNat - 0x61 + 10

/-- Whether a character is given by its name in curly brackets at the front of a text. Names are
    made of letters, digits, blanks and hyphens. -/
def hasName (cs : List Char) : Bool :=
  match cs with
  | '\x7b' :: rest =>
    let name := rest.takeWhile (· ≠ '\x7d')
    !name.isEmpty && name.all (fun c => c.isAlphanum || c = ' ' || c = '-') &&
      (rest.drop name.length).head? = some '\x7d'
  | _ => false

/-- Whether the escapes in the inside of a string are complete. -/
def escapesComplete (bytes : Bool) : List Char → Bool
  | '\\' :: c :: cs =>
    (if c = 'x' then hasHex 2 cs
     else if bytes then true
     else if c = 'u' then hasHex 4 cs
     else if c = 'U' then hasHex 8 cs && hexValue (cs.take 8) ≤ 0x10FFFF
     else if c = 'N' then hasName cs
     else true) && escapesComplete bytes cs
  | _ :: cs => escapesComplete bytes cs
  | [] => true

/-- What can stand before the opening quote of a string: whether it makes it a string of bytes, and
    whether it turns escapes off. -/
def leads : List (List Char × Bool × Bool) :=
  [([], false, false), (['u'], false, false), (['r'], false, true), (['b'], true, false),
   (['b', 'r'], true, true), (['r', 'b'], true, true)]

/-- The string at the front of a text that begins with a quote, after what stands before it. -/
def string? (lead cs : List Char) : Option (Token × List Char) := do
  let (bytes, raw) ← leads.lookup (lead.map Char.toLower)
  let (body, rest) ← quoted? cs
  if (bytes && !body.all fun c => c.toNat < 0x80) || !(raw || escapesComplete bytes body) then none
  else some (.text bytes, rest)

/-! ## All tokens -/

/-- The greatest number of brackets that can be open. -/
def bracketLimit : Nat := 200

/-- The token at the front of a text that begins with neither a blank nor a comment. -/
def token? (cs : List Char) : Option (Token × List Char) :=
  match cs with
  | [] => none
  | c :: rest =>
    if Text.isAsciiDigit c then number? cs
    else if c = '.' then
      if rest.head?.any Text.isAsciiDigit then number? cs
      else (Text.after? ['.', '.'] rest).map fun rest => (.ellipsis, rest)
    else if c = '\x22' ∨ c = '\x27' then string? [] cs
    else if isNameChar c then
      let name := cs.takeWhile isNameChar
      let after := cs.drop name.length
      if after.head? = some '\x22' ∨ after.head? = some '\x27' then string? name after
      else some (.name name, after)
    else if c = '+' ∨ c = '-' then some (.sign, rest)
    else if c = '(' ∨ c = '\x7b' then some (.opening c, rest)
    else if c = ')' ∨ c = '\x7d' then some (.closing c, rest)
    else if c = ',' then some (.comma, rest)
    else if c = ':' then some (.colon, rest)
    else none

/-- A blank within a line. -/
def isGap (c : Char) : Bool :=
  c = ' ' ∨ c = '\t' ∨ c = '\x0c'

/-- The blanks in front of a line and the line after them, given whether the line is indented so
    far, and whether an earlier line that goes on with this one is. A form feed takes indentation
    back. -/
def indented (before so : Bool) : List Char → Bool × List Char
  | [] => (before || so, [])
  | '\\' :: '\n' :: cs => indented (before || so) false cs
  | c :: cs =>
    if c = '\x0c' then indented before false cs
    else if isGap c then indented before true cs
    else (before || so, c :: cs)

/-- The tokens of a text, under a bound on the steps, given how many brackets are open and whether
    a line begins. -/
def tokensFrom : Nat → Nat → Bool → List Char → Option (List Token)
  | 0, _, _, _ => none
  | _, _, false, [] => some []
  | steps + 1, depth, true, cs =>
    let (shifted, line) := indented false false cs
    match line with
    | [] => some []
    | '\n' :: rest => tokensFrom steps depth true rest
    | '#' :: rest => tokensFrom steps depth true ((rest.dropWhile (· ≠ '\n')).drop 1)
    | line => if shifted then none else tokensFrom steps depth false line
  | steps + 1, depth, false, c :: cs =>
    if isGap c then tokensFrom steps depth false cs
    else if c = '#' then tokensFrom steps depth false (cs.dropWhile (· ≠ '\n'))
    else if c = '\n' then
      if depth = 0 then (tokensFrom steps depth true cs).map (.lineEnd :: ·)
      else tokensFrom steps depth false cs
    else if c = '\\' then
      match cs with
      | '\n' :: d :: rest => tokensFrom steps depth false (d :: rest)
      | _ => none
    else
      match token? (c :: cs) with
      | none => none
      | some (.opening b, rest) =>
        if bracketLimit ≤ depth then none
        else (tokensFrom steps (depth + 1) false rest).map (.opening b :: ·)
      | some (.closing b, rest) => (tokensFrom steps (depth - 1) false rest).map (.closing b :: ·)
      | some (t, rest) => (tokensFrom steps depth false rest).map (t :: ·)

/-- A text in which a line feed alone ends lines. -/
def lineFeeds : List Char → List Char
  | '\r' :: '\n' :: cs => '\n' :: lineFeeds cs
  | '\r' :: cs => '\n' :: lineFeeds cs
  | c :: cs => c :: lineFeeds cs
  | [] => []

/-- The tokens of a text. Every step but the turn to a new line consumes a character, so twice the
    length of the text is bound enough. -/
def tokens? (cs : List Char) : Option (List Token) :=
  if cs.contains '\x00' then none
  else
    let cs := lineFeeds (cs.dropWhile fun c => c = ' ' ∨ c = '\t')
    tokensFrom (2 * cs.length + 2) 0 true cs

end ArityFill.Literal
