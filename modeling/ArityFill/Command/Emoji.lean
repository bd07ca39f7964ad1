import ArityFill.Command.EmojiTable
import ArityFill.Text.Case
import ArityFill.Text.Segment
import ArityFill.Text.Space

/-! # Emoji written by name

    A text may hold an emoji as its name between colons, as in `:warning:`. A name that ends in
    `-emoji` or `-text` also asks for one of the two ways to show it. What is between two colons
    and is not a known name stays as it is.
-/

namespace ArityFill.Emoji

/-- The pictures by name. -/
def pictures : List (List Char × List Char) :=
  (table.splitOn "\n").flatMap fun line =>
    (line.splitOn " ").filterMap fun entry =>
      match entry.splitOn "=" with
      | [name, picture] => some (name.toList, picture.toList)
      | _ => none

/-- The endings of a name that choose how an emoji is shown, each with its selector. -/
def variants : List (List Char × Char) :=
  [("-emoji".toList, '\ufe0f'), ("-text".toList, '\ufe0e')]

/-- A name without its choice of how to show it, and the selector of that choice. -/
def splitVariant (body : List Char) : List Char × List Char :=
  match variants.find? fun (ending, _) => ending.isSuffixOf body with
  | some (ending, selector) => (body.take (body.length - ending.length), [selector])
  | none => (body, [])

/-- The picture that a text between colons names. Capitals do not matter. -/
def picture? (body : List Char) : Option (List Char) :=
  let (name, selector) := splitVariant body
  (pictures.lookup (Text.lower name)).map (· ++ selector)

/-- The text between two colons, the first of which has been read. No blank can be in it. -/
def code? (cs : List Char) : Option (List Char) :=
  let body := cs.takeWhile fun c => c ≠ ':' ∧ !Text.isBlank c
  if (cs.drop body.length).head? = some ':' then some body else none

/-- A text with pictures in the place of names, given how many characters of it belong to a name
    that has been read. A colon closes at most one name. -/
def depict : Nat → List Char → List Char
  | _, [] => []
  | skip + 1, _ :: cs => depict skip cs
  | 0, c :: cs =>
    match if c = ':' then code? cs else none with
    | some body =>
      (picture? body).getD (':' :: body ++ [':']) ++ depict (body.length + 1) cs
    | none => c :: depict 0 cs

end ArityFill.Emoji
