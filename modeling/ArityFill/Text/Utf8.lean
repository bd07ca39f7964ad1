/-! # UTF-8 as lists of bytes

    A source file is edited as a byte string, because the spans that a parser and a report give are
    byte offsets. This module fixes the two directions between text and bytes:

    - `encode` writes each character by the standard encoding,
    - `decode` reads a byte string back, and has no answer when the bytes are ill-formed.

    A decoder has to refuse overlong forms, surrogates and values above U+10FFFF, and the three
    assembling functions below say exactly which tuples of bytes form a character.
-/

namespace ArityFill

/-- A byte string. -/
abbrev Bytes := List UInt8

namespace Utf8

/-- The bytes of a text, character by character. -/
def encode (cs : List Char) : Bytes :=
  cs.flatMap String.utf8EncodeChar

/-- Whether a byte continues a character that an earlier byte began. -/
def isTail (b : UInt8) : Bool :=
  b.toNat / 64 = 2

/-- The six payload bits of a continuation byte. -/
def tailBits (b : UInt8) : Nat :=
  b.toNat % 64

/-- The character that two bytes form: a lead of `110xxxxx` and one tail, at least U+0080. -/
def pair (a b : UInt8) : Option Char :=
  let n := a.toNat % 32 * 64 + tailBits b
  if a.toNat / 32 = 6 ∧ isTail b ∧ 0x80 ≤ n then some (Char.ofNat n) else none

/-- The character that three bytes form: a lead of `1110xxxx` and two tails, at least U+0800 and
    no surrogate. -/
def triple (a b c : UInt8) : Option Char :=
  let n := a.toNat % 16 * 4096 + tailBits b * 64 + tailBits c
  if a.toNat / 16 = 14 ∧ isTail b ∧ isTail c ∧ 0x800 ≤ n ∧ ¬(0xD800 ≤ n ∧ n ≤ 0xDFFF) then
    some (Char.ofNat n)
  else none

/-- The character that four bytes form: a lead of `11110xxx` and three tails, from U+10000 to
    U+10FFFF. -/
def quadruple (a b c d : UInt8) : Option Char :=
  let n := a.toNat % 8 * 262144 + tailBits b * 4096 + tailBits c * 64 + tailBits d
  if a.toNat / 8 = 30 ∧ isTail b ∧ isTail c ∧ isTail d ∧ 0x10000 ≤ n ∧ n ≤ 0x10FFFF then
    some (Char.ofNat n)
  else none

/-- The text that a byte string spells, if it is well-formed. The lead byte alone decides how many
    bytes belong to a character, so no choice is ever taken back. -/
def decode : Bytes → Option (List Char)
  | [] => some []
  | a :: rest =>
    if a.toNat < 0x80 then
      (decode rest).map (Char.ofNat a.toNat :: ·)
    else match rest with
      | [] => none
      | b :: rest =>
        if a.toNat < 0xE0 then
          match pair a b with
          | some c => (decode rest).map (c :: ·)
          | none => none
        else match rest with
          | [] => none
          | c :: rest =>
            if a.toNat < 0xF0 then
              match triple a b c with
              | some c => (decode rest).map (c :: ·)
              | none => none
            else match rest with
              | [] => none
              | d :: rest =>
                match quadruple a b c d with
                | some c => (decode rest).map (c :: ·)
                | none => none

/-- The bytes of a string. -/
def ofString (s : String) : Bytes :=
  encode s.toList

/-- The string that a byte string spells, if it is well-formed. -/
def toString? (b : Bytes) : Option String :=
  (decode b).map String.ofList

end Utf8

end ArityFill
