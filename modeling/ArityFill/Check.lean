import ArityFill.Json.Value
import ArityFill.Text.Integer

/-! # Checking JSON values against their expected shape

    A check turns a JSON value into a value of a domain type, or lists every failure: each with the
    place where it was found and its kind. Failures come in the order in which the fields of a type
    are declared, those of a field before those of the next.
-/

namespace ArityFill

/-- One step from a value to a part of it. -/
inductive Step where
  /-- To the member of an object. -/
  | field (name : String)
  /-- To the item of an array. -/
  | item (index : Nat)
  deriving DecidableEq, Repr

/-- What is wrong with a value. -/
inductive Complaint where
  /-- An object was expected. -/
  | notObject
  /-- A required member is absent. -/
  | missing
  /-- A string was expected. -/
  | notString
  /-- An array was expected, for a list of any length. -/
  | notList
  /-- An array was expected, for a fixed sequence. -/
  | notSequence
  /-- One of a few names was expected. -/
  | notChoice
  /-- An integer was expected, and the value is nothing that could be read as one. -/
  | notInteger
  /-- The string writes no integer. -/
  | unreadableInteger
  /-- The number is beyond what is taken for an integer. -/
  | oversizeInteger
  /-- The number has a fraction. -/
  | fractional
  /-- The number is infinite, or not a number. -/
  | notFinite
  /-- The integer is below the least allowed one. -/
  | tooSmall
  deriving DecidableEq, Repr

/-- A complaint and the place it is about. -/
structure Failure where
  /-- The way from the checked value to the part at fault. -/
  place : List Step
  /-- What is wrong there. -/
  complaint : Complaint
  deriving DecidableEq, Repr

/-- The outcome of a check: a value, or all failures. -/
abbrev Checked (α : Type) := Except (List Failure) α

namespace Check

/-- A single failure at the checked value itself. -/
def fail {α : Type} (c : Complaint) : Checked α :=
  .error [⟨[], c⟩]

/-- A check of a part, with its failures placed relative to the whole. -/
def within {α : Type} (step : Step) : Checked α → Checked α
  | .ok a => .ok a
  | .error fs => .error (fs.map fun f => ⟨step :: f.place, f.complaint⟩)

/-- Two checks, with the failures of both. -/
def both {α β : Type} : Checked α → Checked β → Checked (α × β)
  | .ok a, .ok b => .ok (a, b)
  | .ok _, .error fs => .error fs
  | .error fs, .ok _ => .error fs
  | .error fs, .error gs => .error (fs ++ gs)

/-- The members of an object. -/
def object : Json → Checked (List (String × Json))
  | .object members => .ok members
  | _ => fail .notObject

/-- A string. -/
def string : Json → Checked String
  | .string s => .ok s
  | _ => fail .notString

/-- Either `null`, or what another check accepts. -/
def nullable {α : Type} (check : Json → Checked α) : Json → Checked (Option α)
  | .null => .ok none
  | j => (check j).map some

/-- The bound on the numbers that are integers although they were written with a fraction or an
    exponent. -/
def wholeBound : Int := Nat.pow 2 63

/-- An integer. Truth values count as one and zero, whole numbers and strings that write an
    integer count as that integer. -/
def integer : Json → Checked Int
  | .integer n => .ok n
  | .bool b => .ok (if b then 1 else 0)
  | .number x =>
    match x.toWhole with
    | .whole n => if -wholeBound < n ∧ n < wholeBound then .ok n else fail .oversizeInteger
    | .fractional => fail .fractional
    | .notFinite => fail .notFinite
  | .string s =>
    match Text.readInteger s.toList with
    | .ok n => .ok n
    | .error .unreadable => fail .unreadableInteger
    | .error .oversize => fail .oversizeInteger
  | _ => fail .notInteger

/-- An integer that is not negative. -/
def natural (j : Json) : Checked Nat :=
  match integer j with
  | .ok n => if n < 0 then fail .tooSmall else .ok n.toNat
  | .error fs => .error fs

/-- The items of an array from an index on, each checked. -/
def itemsFrom {α : Type} (check : Json → Checked α) : Nat → List Json → Checked (List α)
  | _, [] => .ok []
  | i, j :: js =>
    (both (within (.item i) (check j)) (itemsFrom check (i + 1) js)).map fun (a, as) => a :: as

/-- An array, with every item checked. -/
def list {α : Type} (check : Json → Checked α) : Json → Checked (List α)
  | .array items => itemsFrom check 0 items
  | _ => fail .notList

/-- A fixed sequence, written as an array. -/
def sequence {α : Type} (check : Json → Checked α) : Json → Checked (List α)
  | .array items => itemsFrom check 0 items
  | _ => fail .notSequence

/-- A member that must be there. -/
def required {α : Type} (members : List (String × Json)) (name : String)
    (check : Json → Checked α) : Checked α :=
  within (.field name) <|
    match Json.member? members name with
    | some j => check j
    | none => fail .missing

/-- A member that may be absent, and then has a default. -/
def optional {α : Type} (members : List (String × Json)) (name : String) (default : α)
    (check : Json → Checked α) : Checked α :=
  within (.field name) <|
    match Json.member? members name with
    | some j => check j
    | none => .ok default

end Check

end ArityFill
