import ArityFill.Fault
import ArityFill.Text.Digit
import ArityFill.Text.Segment

/-! # The arity in a description

    A type checker describes an arity error in a sentence that names the number of type arguments
    it wanted. The number is read off the leftmost place where the sentence is followed by a digit.
-/

namespace ArityFill.Report

/-- The words of a description that stand before the number of arguments. -/
def arityLead : List Char :=
  "Application of polymorphic type needs <list of ".toList

/-- The digits after the leftmost lead that a digit follows. -/
def arityDigits : List Char → Option (List Char)
  | [] => none
  | c :: cs =>
    match Text.after? arityLead (c :: cs) with
    | some rest =>
      let digits := rest.takeWhile Text.isDigit
      if digits.isEmpty then arityDigits cs else some digits
    | none => arityDigits cs

/-- The number of type arguments that a description asks for. -/
def arityOf (description : String) : Except Fault (Option Nat) :=
  match arityDigits description.toList with
  | none => .ok none
  | some digits =>
    if digits.length ≤ Text.digitLimit then .ok (some (Text.digitsValue digits))
    else .error (.tooManyDigits digits.length)

end ArityFill.Report
