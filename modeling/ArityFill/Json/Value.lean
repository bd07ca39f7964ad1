import ArityFill.Text.Binary64

/-! # JSON values

    Reports come as JSON. Integers and numbers with a fraction or an exponent stay apart, because
    an integer field accepts every integer but only some of the other numbers.
-/

namespace ArityFill

/-- A JSON value. The members of an object stand in the order in which they were written, repeated
    names included. -/
inductive Json where
  /-- The literal `null`. -/
  | null
  /-- The literals `true` and `false`. -/
  | bool (b : Bool)
  /-- A number written without fraction and exponent. -/
  | integer (n : Int)
  /-- A number written with a fraction or an exponent, or one of the literals for infinities and
      for what is not a number. -/
  | number (x : Binary64)
  /-- A string. -/
  | string (s : String)
  /-- An array. -/
  | array (items : List Json)
  /-- An object. -/
  | object (members : List (String × Json))

namespace Json

/-- The value of a member of an object. Of a repeated name the last value counts. -/
def member? (members : List (String × Json)) (name : String) : Option Json :=
  (members.reverse.find? fun m => m.1 == name).map Prod.snd

end Json

end ArityFill
