import ArityFill.Span
import ArityFill.Text.Utf8

/-! # Byte strings of source text

    The bytes that the library looks for by value are all ASCII, so none of them can be part of a
    longer character.
-/

namespace ArityFill

/-- The byte of an ASCII character. -/
def byte (c : Char) : UInt8 :=
  c.toNat.toUInt8

namespace Bytes

/-- Whether a byte is a blank: a space, a tab, or part of a line break. -/
def isBlank (b : UInt8) : Bool :=
  b = byte ' ' ∨ b = byte '\t' ∨ b = byte '\r' ∨ b = byte '\n'

/-- The bytes of a span. Positions beyond the end hold nothing. -/
def slice (bs : Bytes) (span : Span) : Bytes :=
  (bs.drop span.start).take (span.stop - span.start)

/-- The bytes with a span replaced. -/
def splice (bs : Bytes) (span : Span) (text : Bytes) : Bytes :=
  bs.take span.start ++ text ++ bs.drop (max span.start span.stop)

/-- The bytes with a span blanked out, byte by byte. -/
def blankOut (bs : Bytes) (span : Span) : Bytes :=
  bs.splice span (List.replicate (span.stop - span.start) (byte ' '))

/-- The offset of the first byte at or after `offset` that is no blank, or the length if there is
    none. -/
def skipForward (bs : Bytes) (offset : Nat) : Nat :=
  offset + ((bs.drop offset).takeWhile isBlank).length

/-- The first byte at or after `offset` that is no blank. -/
def nextSolid? (bs : Bytes) (offset : Nat) : Option UInt8 :=
  ((bs.drop offset).dropWhile isBlank).head?

/-- The bytes before `offset` from the last one that is no blank on, nearest first. -/
def solidBefore (bs : Bytes) (offset : Nat) : Bytes :=
  (bs.take offset).reverse.dropWhile isBlank

/-- The last byte before `offset` that is no blank. -/
def lastSolid? (bs : Bytes) (offset : Nat) : Option UInt8 :=
  (solidBefore bs offset).head?

end Bytes

end ArityFill
