import ArityFill.Json.Value
import ArityFill.Text.Digit
import ArityFill.Text.Integer
import ArityFill.Text.Segment

/-! # Reading JSON text

    The notation is strict: no comments, no trailing commas, no control characters in strings, no
    leading zeros and no byte order mark. In addition the literals `NaN`, `Infinity` and
    `-Infinity` are values. A string must be a sequence of characters, so an escape that names half
    of a surrogate pair has to stand beside its other half.

    `Limits` bounds the nesting and the length of integers. The readers below take the rest of the
    text and return what they leave of it.
-/

namespace ArityFill.Json

/-- Bounds on what is read as one value. -/
structure Limits where
  /-- How deep arrays and objects that are not empty may be nested. -/
  depth : Nat
  /-- How many digits the whole part of a number may have. -/
  digits : Nat

/-- The bounds under which reports are read. -/
def Limits.report : Limits := ⟨200, Text.digitLimit⟩

/-- A text without its leading blanks. -/
def skipBlanks (cs : List Char) : List Char :=
  cs.dropWhile fun c => c = ' ' ∨ c = '\t' ∨ c = '\n' ∨ c = '\r'

/-! ## Strings -/

/-- A piece of a string: a character, or a code unit named by an escape. -/
inductive Piece where
  /-- A character that stands for itself, or a short escape. -/
  | char (c : Char)
  /-- The escape `\u` with four hexadecimal digits. -/
  | unit (n : Nat)

/-- The value of a hexadecimal digit. -/
def hexDigit? (c : Char) : Option Nat :=
  if '0' ≤ c ∧ c ≤ '9' then some (c.toNat - 0x30)
  else if 'a' ≤ c ∧ c ≤ 'f' then some (c.toNat - 0x61 + 10)
  else if 'A' ≤ c ∧ c ≤ 'F' then some (c.toNat - 0x41 + 10)
  else none

/-- The value of four hexadecimal digits. -/
def hexUnit? (a b c d : Char) : Option Nat := do
  let a ← hexDigit? a
  let b ← hexDigit? b
  let c ← hexDigit? c
  let d ← hexDigit? d
  return ((a * 16 + b) * 16 + c) * 16 + d

/-- The character that a short escape stands for. -/
def shortEscape? (c : Char) : Option Char :=
  if c = '\x22' ∨ c = '\\' ∨ c = '/' then some c
  else if c = 'b' then some '\x08'
  else if c = 'f' then some '\x0c'
  else if c = 'n' then some '\n'
  else if c = 'r' then some '\r'
  else if c = 't' then some '\t'
  else none

/-- The pieces of a string up to its closing quote, and the text after the quote. -/
def pieces : List Char → Option (List Piece × List Char)
  | [] => none
  | '\\' :: 'u' :: a :: b :: c :: d :: rest => do
    let n ← hexUnit? a b c d
    let (ps, rest) ← pieces rest
    return (.unit n :: ps, rest)
  | '\\' :: e :: rest => do
    let c ← shortEscape? e
    let (ps, rest) ← pieces rest
    return (.char c :: ps, rest)
  | c :: rest =>
    if c = '\x22' then some ([], rest)
    else if c.toNat < 0x20 ∨ c = '\\' then none
    else do
      let (ps, rest) ← pieces rest
      return (.char c :: ps, rest)

/-- Whether a code unit is the first half of a surrogate pair. -/
def isHigh (n : Nat) : Bool := 0xD800 ≤ n ∧ n ≤ 0xDBFF

/-- Whether a code unit is the second half of a surrogate pair. -/
def isLow (n : Nat) : Bool := 0xDC00 ≤ n ∧ n ≤ 0xDFFF

/-- The characters that pieces stand for. Two halves of a surrogate pair make one character, and
    a half on its own makes none. -/
def assemble : List Piece → Option (List Char)
  | [] => some []
  | .char c :: ps => (assemble ps).map (c :: ·)
  | .unit hi :: .unit lo :: ps =>
    if isHigh hi then
      if isLow lo then
        (assemble ps).map (Char.ofNat (0x10000 + (hi - 0xD800) * 0x400 + (lo - 0xDC00)) :: ·)
      else none
    else if isLow hi then none
    else (assemble (.unit lo :: ps)).map (Char.ofNat hi :: ·)
  | .unit n :: ps =>
    if isHigh n ∨ isLow n then none else (assemble ps).map (Char.ofNat n :: ·)

/-- A string whose opening quote has been read. -/
def readString (cs : List Char) : Option (String × List Char) := do
  let (ps, rest) ← pieces cs
  let chars ← assemble ps
  return (String.ofList chars, rest)

/-! ## Numbers -/

/-- The digits at the front of a text, at least one, and the rest. -/
def digits (cs : List Char) : Option (List Char × List Char) :=
  let ds := cs.takeWhile Text.isAsciiDigit
  if ds.isEmpty then none else some (ds, cs.drop ds.length)

/-- The whole part of a number: a zero, or digits that do not begin with one. -/
def wholePart : List Char → Option (List Char × List Char)
  | '0' :: rest => some (['0'], rest)
  | cs => digits cs

/-- The digits after a point, if a point follows; none if there is no point. -/
def fractionPart : List Char → Option (Option (List Char) × List Char)
  | '.' :: rest => do
    let (ds, rest) ← digits rest
    return (some ds, rest)
  | cs => some (none, cs)

/-- The exponent after an `e`, if one follows. -/
def exponentPart : List Char → Option (Option Int × List Char)
  | c :: rest =>
    if c = 'e' ∨ c = 'E' then do
      let (negative, rest) := Text.splitSign rest
      let (ds, rest) ← digits rest
      return (some (Text.signed negative (Text.digitsValue ds)), rest)
    else some (none, c :: rest)
  | [] => some (none, [])

/-- A number whose sign has been read. -/
def readNumber (limits : Limits) (negative : Bool) (cs : List Char) :
    Option (Json × List Char) := do
  let (whole, rest) ← wholePart cs
  if limits.digits < whole.length then none
  let (fraction, rest) ← fractionPart rest
  let (exponent, rest) ← exponentPart rest
  if fraction.isNone && exponent.isNone then
    return (.integer (Text.signed negative (Text.digitsValue whole)), rest)
  else
    let places := fraction.getD []
    let mantissa := Text.digitsValue (whole ++ places)
    let scale : Int := exponent.getD 0 - places.length
    return (.number (Binary64.ofDecimal negative mantissa scale), rest)

/-! ## Values -/

/-- The words that are values, each with its value. -/
def words : List (List Char × Json) :=
  [("null".toList, .null), ("true".toList, .bool true), ("false".toList, .bool false),
   ("NaN".toList, .number .nan), ("Infinity".toList, .number (.infinite false)),
   ("-Infinity".toList, .number (.infinite true))]

/-- A word at the front of a text. -/
def readWord (cs : List Char) : Option (Json × List Char) :=
  words.findSome? fun (word, v) => (Text.after? word cs).map (v, ·)

/-- A value that is neither an array nor an object. -/
def readScalar (limits : Limits) (cs : List Char) : Option (Json × List Char) :=
  match readWord cs with
  | some r => some r
  | none =>
    match cs with
    | '\x22' :: rest => (readString rest).map fun (s, rest) => (.string s, rest)
    | '-' :: rest => readNumber limits true rest
    | cs => readNumber limits false cs

mutual

/-- A value, under a bound on the steps and at a depth of nesting. -/
def readValue (limits : Limits) : Nat → Nat → List Char → Option (Json × List Char)
  | 0, _, _ => none
  | steps + 1, depth, cs =>
    match skipBlanks cs with
    | '[' :: rest =>
      match skipBlanks rest with
      | ']' :: rest => some (.array [], rest)
      | rest =>
        if limits.depth ≤ depth then none
        else (readItems limits steps (depth + 1) rest).map fun (vs, rest) => (.array vs, rest)
    | '\x7b' :: rest =>
      match skipBlanks rest with
      | '\x7d' :: rest => some (.object [], rest)
      | rest =>
        if limits.depth ≤ depth then none
        else (readMembers limits steps (depth + 1) rest).map fun (ms, rest) => (.object ms, rest)
    | cs => readScalar limits cs

/-- The items of an array from the next one to its closing bracket. -/
def readItems (limits : Limits) : Nat → Nat → List Char → Option (List Json × List Char)
  | 0, _, _ => none
  | steps + 1, depth, cs =>
    match readValue limits steps depth cs with
    | none => none
    | some (v, rest) =>
      match skipBlanks rest with
      | ',' :: rest => (readItems limits steps depth rest).map fun (vs, rest) => (v :: vs, rest)
      | ']' :: rest => some ([v], rest)
      | _ => none

/-- The members of an object from the next one to its closing brace. -/
def readMembers (limits : Limits) :
    Nat → Nat → List Char → Option (List (String × Json) × List Char)
  | 0, _, _ => none
  | steps + 1, depth, cs =>
    match skipBlanks cs with
    | '\x22' :: rest =>
      match readString rest with
      | none => none
      | some (name, rest) =>
        match skipBlanks rest with
        | ':' :: rest =>
          match readValue limits steps depth rest with
          | none => none
          | some (v, rest) =>
            match skipBlanks rest with
            | ',' :: rest =>
              (readMembers limits steps depth rest).map fun (ms, rest) => ((name, v) :: ms, rest)
            | '\x7d' :: rest => some ([(name, v)], rest)
            | _ => none
        | _ => none
    | _ => none

end

/-- The value that a text spells, if it is in the notation and within the limits. Every two steps
    of the readers consume a character, so twice the length of the text is bound enough. -/
def read? (limits : Limits) (cs : List Char) : Option Json :=
  match readValue limits (2 * cs.length + 2) 0 cs with
  | some (v, rest) => if (skipBlanks rest).isEmpty then some v else none
  | none => none

end ArityFill.Json
