/-! # Spans of bytes

    Nodes of a syntax tree and edits of a source text both cover a span: the bytes from `start` up
    to, and without, `stop`. A token that a parser made up covers none.
-/

namespace ArityFill

/-- The bytes from `start` up to `stop`. -/
structure Span where
  /-- The offset of the first byte. -/
  start : Nat
  /-- The offset after the last byte. -/
  stop : Nat
  deriving DecidableEq, Repr

namespace Span

/-- Whether two spans share a position. A span of no bytes shares one with a span that has its
    offset strictly inside, and with no other. -/
def overlaps (a b : Span) : Bool :=
  a.start < b.stop ∧ b.start < a.stop

/-- The span as the two offsets with a colon between them. -/
def text (s : Span) : String :=
  s!"{s.start}:{s.stop}"

end Span

end ArityFill
