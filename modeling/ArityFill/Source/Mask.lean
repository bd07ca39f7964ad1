import ArityFill.Source.Bytes

/-! # Masking type annotations for a TypeScript parser

    Flow annotations hold punctuation that the grammar of TypeScript does not accept: the mark of a
    maybe type (`?T`) and the bars of an exact object type (`{| ... |}`). `mask` turns each of them
    into a space before parsing. It changes bytes in place, so offsets into the masked text are
    offsets into the source.

    The text is read once from left to right. A question mark is judged by the *source* before it,
    and the two bytes of a bar and its brace are read together, so in `{|}` the bar belongs to the
    opening brace.
-/

namespace ArityFill.Source

/-- The bytes after which a question mark can only begin a maybe type. -/
def maybeContext : Bytes :=
  [byte ':', byte '<', byte ',', byte '(', byte '=', byte '|', byte '&', byte '[', byte '\x7b']

/-- Whether a question mark begins a maybe type, by the bytes before it, nearest first. Over blanks
    it has to follow one of a few bytes, or the arrow of a function type. -/
def isMaybeAfter (before : Bytes) : Bool :=
  match before.dropWhile Bytes.isBlank with
  | [] => false
  | b :: rest => if b = byte '>' then rest.head? = some (byte '=') else maybeContext.contains b

/-- Masks the rest of a text, given the source bytes before it, nearest first. -/
def maskFrom (before : Bytes) : Bytes → Bytes
  | [] => []
  | [b] => [if b = byte '?' ∧ isMaybeAfter before then byte ' ' else b]
  | a :: b :: rest =>
    if a = byte '?' then
      (if isMaybeAfter before then byte ' ' else a) :: maskFrom (a :: before) (b :: rest)
    else if a = byte '\x7b' ∧ b = byte '|' then
      a :: byte ' ' :: maskFrom (b :: a :: before) rest
    else if a = byte '|' ∧ b = byte '\x7d' then
      byte ' ' :: b :: maskFrom (b :: a :: before) rest
    else a :: maskFrom (a :: before) (b :: rest)

/-- A source with the punctuation that is foreign to the grammar turned into spaces. -/
def mask (source : Bytes) : Bytes :=
  maskFrom [] source

end ArityFill.Source
