import ArityFill.Literal.Token

/-! # Literals

    `isLiteral` says whether a text writes a value: a number with at most one sign, a sum or
    difference of a real and an imaginary number, strings side by side, one of the names `True`,
    `False` and `None`, three points, a tuple, a set or a dictionary. The members of a set and the
    keys of a dictionary must not hold a set or a dictionary themselves.
-/

namespace ArityFill.Literal

/-- The kind of a value, as far as it decides where the value can stand. -/
inductive Kind where
  /-- A real number without a sign. -/
  | real
  /-- An imaginary number without a sign. -/
  | imaginary
  /-- A real number with a sign. -/
  | signed
  /-- Any other value that can be a member of a set. -/
  | member
  /-- A value that cannot be a member of a set. -/
  | container
  /-- The name `set`, which is a value only when it is applied to nothing. -/
  | setName
  deriving DecidableEq, Repr

namespace Kind

/-- Whether this is the kind of a value. -/
def isValue (k : Kind) : Bool :=
  k ≠ .setName

/-- Whether this is the kind of a value that can be a member of a set. -/
def isMember (k : Kind) : Bool :=
  k ≠ .setName ∧ k ≠ .container

/-- The kind of a tuple, if its items are values. -/
def tuple? (ks : List Kind) : Option Kind :=
  if ks.all isValue then some (if ks.all isMember then .member else .container) else none

/-- The kind of a set, if its items can be members. -/
def set? (ks : List Kind) : Option Kind :=
  if ks.all isMember then some .container else none

/-- The kind of a number under a sign. -/
def underSign? : Kind → Option Kind
  | .real => some .signed
  | .imaginary => some .member
  | _ => none

/-- The kind of a sum or a difference. -/
def sum? : Kind → Kind → Option Kind
  | .real, .imaginary => some .member
  | .signed, .imaginary => some .member
  | _, _ => none

end Kind

/-- The letters of the name `set`, each in all forms that count as the same letter: raised, lowered,
    wide, and of the alphabets for mathematics. -/
def setLetters : List (List Char) :=
  ["sſˢₛｓ𝐬𝑠𝒔𝓈𝓼𝔰𝕤𝖘𝗌𝘀𝘴𝙨𝚜", "eᵉₑℯⅇｅ𝐞𝑒𝒆𝓮𝔢𝕖𝖊𝖾𝗲𝘦𝙚𝚎", "tᵗₜｔ𝐭𝑡𝒕𝓉𝓽𝔱𝕥𝖙𝗍𝘁𝘵𝙩𝚝"].map String.toList

/-- Whether a name is `set`, in any form of its letters. -/
def isSetName (name : List Char) : Bool :=
  name.length = setLetters.length && (name.zip setLetters).all fun (c, forms) => forms.contains c

/-- The kinds of the names that are values, and of the name `set`. -/
def nameKind? (name : List Char) : Option Kind :=
  if name = "True".toList ∨ name = "False".toList ∨ name = "None".toList then some .member
  else if isSetName name then some .setName
  else none

/-- What follows strings side by side, all of which have to be of one sort. -/
def afterStrings? (bytes : Bool) : List Token → Option (List Token)
  | .text b :: ts => if b = bytes then afterStrings? bytes ts else none
  | ts => some ts

/-- The name `set` applied to nothing, or else what was read. -/
def applied : Kind × List Token → Kind × List Token
  | (.setName, .opening '(' :: .closing ')' :: ts) => (.container, ts)
  | r => r

mutual

/-- A value without a sign, and what follows it, under a bound on the steps. -/
def atom? : Nat → List Token → Option (Kind × List Token)
  | 0, _ => none
  | _ + 1, .real :: ts => some (.real, ts)
  | _ + 1, .imaginary :: ts => some (.imaginary, ts)
  | _ + 1, .ellipsis :: ts => some (.member, ts)
  | _ + 1, .text bytes :: ts => (afterStrings? bytes ts).map fun ts => (.member, ts)
  | _ + 1, .name name :: ts => (nameKind? name).map fun k => applied (k, ts)
  | _ + 1, .opening '(' :: .closing ')' :: ts => some (.member, ts)
  | _ + 1, .opening '\x7b' :: .closing '\x7d' :: ts => some (.container, ts)
  | steps + 1, .opening '(' :: ts =>
    match expression? steps ts with
    | some (k, .closing ')' :: ts) => some (applied (k, ts))
    | some (k, .comma :: ts) =>
      (items? steps ')' ts).bind fun (ks, ts) => (Kind.tuple? (k :: ks)).map fun k => (k, ts)
    | _ => none
  | steps + 1, .opening '\x7b' :: ts =>
    match expression? steps ts with
    | some (k, .closing '\x7d' :: ts) => (Kind.set? [k]).map fun k => (k, ts)
    | some (k, .comma :: ts) =>
      (items? steps '\x7d' ts).bind fun (ks, ts) => (Kind.set? (k :: ks)).map fun k => (k, ts)
    | some (k, .colon :: ts) =>
      if k.isMember then (entries? steps ts).map fun ts => (.container, ts) else none
    | _ => none
  | _ + 1, _ => none

/-- A value with or without a sign, or the sum of two numbers. -/
def expression? : Nat → List Token → Option (Kind × List Token)
  | 0, _ => none
  | steps + 1, ts =>
    let left := match ts with
      | .sign :: ts => (atom? steps ts).bind fun (k, ts) => k.underSign?.map fun k => (k, ts)
      | ts => atom? steps ts
    match left with
    | some (k, .sign :: ts) =>
      (atom? steps ts).bind fun (r, ts) => (Kind.sum? k r).map fun k => (k, ts)
    | left => left

/-- Items with commas between them up to a closing bracket; a comma may stand after the last. -/
def items? : Nat → Char → List Token → Option (List Kind × List Token)
  | 0, _, _ => none
  | steps + 1, close, ts =>
    match ts with
    | .closing c :: ts => if c = close then some ([], ts) else none
    | ts =>
      match expression? steps ts with
      | some (k, .comma :: ts) => (items? steps close ts).map fun (ks, ts) => (k :: ks, ts)
      | some (k, .closing c :: ts) => if c = close then some ([k], ts) else none
      | _ => none

/-- The entries of a dictionary from the value of one on, up to the closing bracket. -/
def entries? : Nat → List Token → Option (List Token)
  | 0, _ => none
  | steps + 1, ts =>
    match expression? steps ts with
    | some (v, .closing '\x7d' :: ts) => if v.isValue then some ts else none
    | some (v, .comma :: .closing '\x7d' :: ts) => if v.isValue then some ts else none
    | some (v, .comma :: ts) =>
      match expression? steps ts with
      | some (k, .colon :: ts) =>
        if v.isValue ∧ k.isMember then entries? steps ts else none
      | _ => none
    | _ => none

end

/-- Whether tokens write a value, or several with commas between them. Ends of lines may follow. -/
def isWritten : Nat → List Token → Bool
  | 0, _ => false
  | steps + 1, ts =>
    match expression? steps ts with
    | some (k, .comma :: ts) => k.isValue && (ts.all (· = .lineEnd) || isWritten steps ts)
    | some (k, ts) => k.isValue && ts.all (· = .lineEnd)
    | none => false

/-- Whether a text is a literal. A value takes two steps for each bracket around it and one for each
    item, so three times the number of tokens is bound enough. -/
def isLiteral (cs : List Char) : Bool :=
  match tokens? cs with
  | some ts => isWritten (3 * ts.length + 3) ts
  | none => false

end ArityFill.Literal
