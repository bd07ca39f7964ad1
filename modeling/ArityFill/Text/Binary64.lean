/-! # Numbers of the binary64 format

    A JSON number with a fraction or an exponent stands for the binary64 number nearest to it. What
    the rest of the library asks of such a number is whether it is finite and whether it is whole,
    so it is kept as an exact value: a mantissa times a power of two.
-/

namespace ArityFill

/-- A number of the binary64 format. The two zeros are one value here. -/
inductive Binary64 where
  /-- Not a number. -/
  | nan
  /-- An infinity. -/
  | infinite (negative : Bool)
  /-- The number `mantissa * 2 ^ exponent` under its sign. -/
  | finite (negative : Bool) (mantissa : Nat) (exponent : Int)
  deriving DecidableEq, Repr

namespace Binary64

/-- A quotient rounded to the nearest number, a tie going to the even neighbour. -/
def roundDiv (num den : Nat) : Nat :=
  let q := num / den
  let r := num % den
  if 2 * r < den then q
  else if 2 * r > den then q + 1
  else if q % 2 = 0 then q else q + 1

/-- The fraction `num / den * 2 ^ (-e)`, as a numerator and a denominator. -/
def scale (num den : Nat) (e : Int) : Nat × Nat :=
  if 0 ≤ e then (num, den * Nat.pow 2 e.toNat) else (num * Nat.pow 2 (-e).toNat, den)

/-- The least exponent of the format. -/
def leastExponent : Int := -1074

/-- The greatest exponent of the format. -/
def greatestExponent : Int := 971

/-- The bound on mantissas, which have 53 bits. -/
def mantissaBound : Nat := Nat.pow 2 53

/-- The exponent under which a positive fraction has a mantissa of 53 bits, or the least exponent
    of the format if that is larger. The bit lengths of the two numbers fix it up to one. -/
def chooseExponent (num den : Nat) : Int :=
  let fitting : Int := (Nat.log2 num : Int) - Nat.log2 den - 53
  let guess := if fitting < leastExponent then leastExponent else fitting
  let (n, d) := scale num den guess
  if d * mantissaBound ≤ n then guess + 1 else guess

/-- The binary64 number nearest to a positive fraction. -/
def ofFraction (negative : Bool) (num den : Nat) : Binary64 :=
  let e := chooseExponent num den
  let (n, d) := scale num den e
  let m := roundDiv n d
  if greatestExponent < e ∨ (e = greatestExponent ∧ mantissaBound ≤ m) then .infinite negative
  else .finite negative m e

/-- The binary64 number nearest to `mantissa * 10 ^ exponent`. Beyond the range of the format the
    power of ten is not formed: the number of digits already decides the answer. -/
def ofDecimal (negative : Bool) (mantissa : Nat) (exponent : Int) : Binary64 :=
  if mantissa = 0 then .finite negative 0 0
  else
    let magnitude : Int := exponent + (Nat.toDigits 10 mantissa).length
    if 310 < magnitude then .infinite negative
    else if magnitude < -330 then .finite negative 0 0
    else if 0 ≤ exponent then ofFraction negative (mantissa * Nat.pow 10 exponent.toNat) 1
    else ofFraction negative mantissa (Nat.pow 10 (-exponent).toNat)

/-- What a number is when an integer is asked for. -/
inductive Whole where
  /-- A whole number. -/
  | whole (n : Int)
  /-- A finite number with a fraction. -/
  | fractional
  /-- An infinity, or not a number. -/
  | notFinite
  deriving DecidableEq, Repr

/-- The integer that a number is, if it is one. -/
def toWhole : Binary64 → Whole
  | .nan => .notFinite
  | .infinite _ => .notFinite
  | .finite negative m e =>
    if 0 ≤ e then
      let n := m * Nat.pow 2 e.toNat
      .whole (if negative then -(n : Int) else n)
    else if m % Nat.pow 2 (-e).toNat = 0 then
      let n := m / Nat.pow 2 (-e).toNat
      .whole (if negative then -(n : Int) else n)
    else .fractional

end Binary64

end ArityFill
