import ArityFill.Command.Emoji
import ArityFill.Command.Styled
import ArityFill.Literal.Basic
import ArityFill.Text.Word

/-! # Markup in cells

    A cell of a table may hold style tags in square brackets, as in `[bold]text[/bold]`. Tags take
    no room. What looks like a tag is one: a bracket followed by a small letter, a hash, a slash or
    an at sign, up to the next closing bracket. Backslashes before a tag escape it. The text between
    two tags may hold emoji by name.

    A tag whose name begins with an at sign is an action. Its value names a handler, or gives the
    arguments of one as a literal, or does both; this is looked at when the tag is closed.
-/

namespace ArityFill.Markup

/-! ## Segments -/

/-- A part of a marked-up text. -/
inductive Segment where
  /-- Text that is shown. -/
  | text (cs : List Char)
  /-- The inside of a tag. -/
  | tag (body : List Char)

/-- Whether a character can begin the inside of a tag. -/
def beginsTag (c : Char) : Bool :=
  ('a' ≤ c ∧ c ≤ 'z') ∨ c = '#' ∨ c = '/' ∨ c = '@'

/-- The inside of the tag whose opening bracket has been read. -/
def tagBody? (cs : List Char) : Option (List Char) :=
  let body := cs.takeWhile fun c => c ≠ '[' ∧ c ≠ ']'
  match body with
  | [] => none
  | c :: _ => if beginsTag c ∧ (cs.drop body.length).head? = some ']' then some body else none

/-- The segments of a text, given how many characters of it belong to a tag that has been read, how
    many backslashes stand before it, and the text since the last tag in reverse. -/
def segments : Nat → Nat → List Char → List Char → List Segment
  | _, slashes, shown, [] => [.text (List.replicate slashes '\\' ++ shown).reverse]
  | skip + 1, slashes, shown, _ :: cs => segments skip slashes shown cs
  | 0, slashes, shown, c :: cs =>
    if c = '\\' then segments 0 (slashes + 1) shown cs
    else if c = '[' then
      match tagBody? cs with
      | some body =>
        .text shown.reverse :: .text (List.replicate (slashes / 2) '\\') ::
        (if slashes % 2 = 1 then .text ('[' :: body ++ [']']) else .tag body) ::
        segments (body.length + 1) 0 [] cs
      | none => segments 0 0 (c :: List.replicate (slashes - 1) '\\' ++ shown) cs
    else segments 0 0 (c :: List.replicate slashes '\\' ++ shown) cs

/-! ## Tags -/

/-- A tag that is open. -/
structure Tag where
  /-- How much text stood before it. -/
  start : Nat
  /-- The style that it names, in its normal form. -/
  name : List Char
  /-- What follows its equals sign, if it has one. -/
  value : Option (List Char)

namespace Tag

/-- The name in the inside of a tag: what stands before its equals sign. -/
def nameOf (body : List Char) : List Char :=
  body.takeWhile (· ≠ '=')

/-- The value in the inside of a tag: what stands after its equals sign. -/
def valueOf? (body : List Char) : Option (List Char) :=
  match body.drop (nameOf body).length with
  | [] => none
  | _ :: value => some value

/-- The tag that is opened after some text. -/
def opened (start : Nat) (body : List Char) : Except Fault Tag :=
  (Style.normal (nameOf body)).map fun name => ⟨start, name, valueOf? body⟩

/-- The style of a tag as it is written. -/
def style (t : Tag) : List Char :=
  match t.value with
  | some value => t.name ++ ' ' :: value
  | none => t.name

/-- The arguments in the value of an action. A handler without arguments has empty ones, and a value
    that names no handler is taken for arguments. -/
def arguments (value : List Char) : List Char :=
  let value := Text.trim Text.isBlank value
  match value.dropWhile fun c => Text.isWordChar c || c = '.' with
  | [] => ['(', ')']
  | '(' :: rest =>
    if rest.getLast? = some ')' ∧ !rest.contains '\n' then '(' :: rest else value
  | _ => value

/-- The stretch of a tag that is closed after some text. The style of an action has no text. -/
def closed (t : Tag) (stop : Nat) : Except Fault Stretch :=
  if t.name.head? = some '@' then
    match t.value with
    | some (c :: value) =>
      if Literal.isLiteral (arguments (c :: value)) then .ok ⟨t.start, stop, []⟩
      else .error (.malformedAction (String.ofList (c :: value)))
    | _ => .ok ⟨t.start, stop, []⟩
  else .ok ⟨t.start, stop, t.style⟩

end Tag

/-! ## Reading -/

/-- What has been read of a marked-up text: its text, and the tags that are open, last one first. -/
structure Progress where
  /-- The text so far, with the tags that were closed. -/
  text : Styled := ⟨[], []⟩
  /-- The open tags. -/
  openTags : List Tag := []

namespace Progress

/-- The control characters that are never shown. -/
def isDropped (c : Char) : Bool :=
  c = '\x07' ∨ c = '\x08' ∨ c = '\x0b' ∨ c = '\x0c' ∨ c = '\x0d'

/-- Adds text. -/
def write (p : Progress) (cs : List Char) : Progress :=
  let shown := (Emoji.depict 0 cs).filter fun c => !isDropped c
  { p with text := p.text.append ⟨shown, []⟩ }

/-- Closes an open tag. -/
def close (p : Progress) (t : Tag) (openTags : List Tag) : Except Fault Progress :=
  (t.closed p.text.chars.length).map fun stretch =>
    ⟨{ p.text with stretches := p.text.stretches ++ [stretch] }, openTags⟩

/-- Closes the open tag that a closing tag names. A closing tag without a name closes the last
    one. -/
def closeNamed (p : Progress) (body : List Char) : Except Fault Progress :=
  let fault := Fault.unopenedTag (String.ofList ("[/".toList ++ body ++ [']']))
  let name := Text.trim Text.isBlank (Tag.nameOf body)
  if name.isEmpty then
    match p.openTags with
    | [] => .error fault
    | t :: rest => p.close t rest
  else
    match Style.normal name with
    | .error f => .error f
    | .ok name =>
      match p.openTags.find? fun t => t.name = name with
      | none => .error fault
      | some t => p.close t (p.openTags.eraseP fun t => t.name = name)

/-- Reads a segment. -/
def read (p : Progress) : Segment → Except Fault Progress
  | .text cs => .ok (p.write cs)
  | .tag ('/' :: body) => p.closeNamed body
  | .tag body =>
    (Tag.opened p.text.chars.length body).map fun t => { p with openTags := t :: p.openTags }

/-- Reads segments. -/
def readAll : Progress → List Segment → Except Fault Progress
  | p, [] => .ok p
  | p, s :: rest =>
    match p.read s with
    | .ok p => p.readAll rest
    | .error f => .error f

/-- The text at the end, up to which all open tags reach. -/
def finish (p : Progress) : Styled :=
  let stop := p.text.chars.length
  { p.text with stretches := p.text.stretches ++ p.openTags.map fun t => ⟨t.start, stop, t.style⟩ }

end Progress

/-- The text that a marked-up text shows. -/
def plain (s : String) : Except Fault Styled :=
  (Progress.readAll {} (segments 0 0 [] s.toList)).map Progress.finish

end ArityFill.Markup
