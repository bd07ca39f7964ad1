import ArityFill.Text.Digit
import ArityFill.Text.Space

/-! # Integers written as text

    A field of a report may hold an integer as a string, and so may an option of the command line.
    The string is read as it stands if it is in the plain notation of JSON. Otherwise it is tidied
    and read once more: blanks around it, a plus sign, leading zeros, single underscores between
    digits and a fraction of zeros are all left out, so `+0_001_000.0` is one thousand.
-/

namespace ArityFill.Text

/-- The sign of a written number (`true` for a minus) and what follows it. -/
def splitSign : List Char → Bool × List Char
  | '-' :: cs => (true, cs)
  | '+' :: cs => (false, cs)
  | cs => (false, cs)

/-- A number under its sign. -/
def signed (negative : Bool) (n : Nat) : Int :=
  if negative then -(n : Int) else n

/-- Why a string is no integer. -/
inductive IntegerFault where
  /-- The string is not in the notation. -/
  | unreadable
  /-- The string has more digits than are read as one number. -/
  | oversize
  deriving DecidableEq, Repr

/-- An ASCII digit. -/
def isAsciiDigit (c : Char) : Bool :=
  '0' ≤ c ∧ c ≤ '9'

/-! ## The plain notation -/

/-- The integer in the plain notation: a minus if there is one, then a zero alone or digits that
    do not begin with a zero. A text that begins with too many digits is oversize, whatever stands
    after them. -/
def readPlain (cs : List Char) : Except IntegerFault Int :=
  let negative := cs.head? = some '-'
  let body := if negative then cs.tail else cs
  let digits := body.takeWhile isAsciiDigit
  let rest := body.drop digits.length
  match digits with
  | [] => .error .unreadable
  | '0' :: more => if more.isEmpty && rest.isEmpty then .ok 0 else .error .unreadable
  | digits =>
    if digitLimit < digits.length then .error .oversize
    else if rest.isEmpty then .ok (signed negative (digitsValue digits))
    else .error .unreadable

/-! ## Tidying -/

/-- What follows leading zeros, the last of which was `last`. Underscores among the zeros are left
    out with them. A minus may follow; before a point the last of them stays, and so it does when
    nothing follows. -/
def afterZeros (last : Char) : List Char → Option (List Char)
  | [] => some [last]
  | c :: cs =>
    if c = '0' ∨ c = '_' then afterZeros c cs
    else if isAsciiDigit c ∨ c = '-' then some (c :: cs)
    else if c = '.' then some (last :: c :: cs)
    else none

/-- A text that begins with a digit, without its leading zeros. -/
def dropZeros? : List Char → Option (List Char)
  | [] => none
  | c :: cs =>
    if c = '0' then afterZeros c cs
    else if isAsciiDigit c then some (c :: cs)
    else none

/-- A text without the point and the zeros at its end, if that is what its first point is followed
    by. -/
def dropZeroFraction (cs : List Char) : List Char :=
  let whole := cs.takeWhile (· ≠ '.')
  let places := cs.drop (whole.length + 1)
  if !places.isEmpty && places.all (· = '0') then whole else cs

/-- A text without its underscores. There is no answer if one of them stands at an end or beside
    another. -/
def ungroup? (cs : List Char) : Option (List Char) :=
  let doubled := (cs.zip cs.tail).any fun (a, b) => a = '_' ∧ b = '_'
  if cs.head? = some '_' ∨ cs.getLast? = some '_' ∨ doubled then none
  else some (cs.filter (· ≠ '_'))

/-- A text with everything left out that the plain notation does not admit. -/
def tidy? (cs : List Char) : Option (List Char) :=
  let (negative, body) := splitSign (trim isWhite cs)
  match dropZeros? body with
  | none => none
  | some body => (ungroup? (dropZeroFraction body)).map fun ds => if negative then '-' :: ds else ds

/-- The integer that a text writes. Only a text that is too long as it stands is oversize; one that
    is still too long once it is tidied is unreadable. -/
def readInteger (cs : List Char) : Except IntegerFault Int :=
  match readPlain cs with
  | .error .unreadable =>
    match tidy? cs with
    | none => .error .unreadable
    | some ds =>
      match readPlain ds with
      | .ok n => .ok n
      | .error _ => .error .unreadable
  | answer => answer

end ArityFill.Text
