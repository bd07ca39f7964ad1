import ArityFill.Text.Space

/-! # Finding and cutting text

    The few searches that paths, markers and report descriptions need, on lists of characters.
-/

namespace ArityFill.Text

/-- Whether `part` stands somewhere in a text. -/
def occurs (part : List Char) : List Char → Bool
  | [] => part.isEmpty
  | c :: cs => part.isPrefixOf (c :: cs) || occurs part cs

/-- What follows `lead` in a text that begins with it. -/
def after? (lead : List Char) (cs : List Char) : Option (List Char) :=
  if lead.isPrefixOf cs then some (cs.drop lead.length) else none

/-- The pieces of a text between the occurrences of a separator; there is one more piece than
    there are separators. -/
def pieces (sep : Char) : List Char → List (List Char)
  | [] => [[]]
  | c :: cs =>
    if c = sep then [] :: pieces sep cs
    else match pieces sep cs with
      | [] => [[c]]
      | p :: ps => (c :: p) :: ps

/-- The runs of characters between blanks. -/
def fields (cs : List Char) : List (List Char) :=
  (pieces ' ' (cs.map fun c => if isBlank c then ' ' else c)).filter fun field => !field.isEmpty

/-- What follows the last character of a class, or the whole text if there is none. -/
def afterLast (p : Char → Bool) (cs : List Char) : List Char :=
  (cs.reverse.takeWhile (fun c => !p c)).reverse

end ArityFill.Text
