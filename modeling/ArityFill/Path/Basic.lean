import ArityFill.Text.Segment

/-! # Paths

    A path is an anchor and a list of components. Reading a path drops empty components and single
    dots; a double dot stays, because only a file system, or `Path.resolve`, can say where it leads.
-/

namespace ArityFill

/-- An absolute location: the names on the way from the root. -/
abbrev Location := List String

/-- Where a path starts. -/
inductive Anchor where
  /-- At the current directory. -/
  | here
  /-- At the root. -/
  | root
  /-- At the root, written with exactly two slashes. -/
  | doubleRoot
  deriving DecidableEq, Repr

/-- The slashes that write an anchor. -/
def Anchor.text : Anchor → String
  | .here => ""
  | .root => "/"
  | .doubleRoot => "//"

/-- A path. -/
structure Path where
  /-- Where it starts. -/
  anchor : Anchor
  /-- The components, none of them empty or a single dot. -/
  parts : List String
  deriving DecidableEq, Repr

namespace Path

/-- The anchor of a written path, by the number of its leading slashes. -/
def anchorOf (cs : List Char) : Anchor :=
  match (cs.takeWhile (· = '/')).length with
  | 0 => .here
  | 2 => .doubleRoot
  | _ => .root

/-- The components of a written path. -/
def partsOf (cs : List Char) : List String :=
  ((Text.pieces '/' cs).filter fun p => p ≠ [] ∧ p ≠ ['.']).map String.ofList

/-- The path that a text writes. -/
def ofString (s : String) : Path :=
  ⟨anchorOf s.toList, partsOf s.toList⟩

/-- The text of a path. The current directory is a single dot. -/
def text (p : Path) : String :=
  if p.anchor = .here ∧ p.parts = [] then "."
  else p.anchor.text ++ "/".intercalate p.parts

/-- The last component, or nothing if there is none. -/
def name (p : Path) : String :=
  p.parts.getLast?.getD ""

/-- The extension of a file name: what begins at its last dot, unless that dot is the first or
    the last character. -/
def suffixOf (name : List Char) : List Char :=
  let tail := Text.afterLast (· = '.') name
  if tail = [] ∨ name.length ≤ tail.length + 1 then [] else '.' :: tail

/-- The extension of a path's last component. -/
def suffix (p : Path) : String :=
  String.ofList (suffixOf p.name.toList)

/-- The path of something below. -/
def join (p : Path) (below : List String) : Path :=
  ⟨p.anchor, p.parts ++ below⟩

/-- One step of a walk: a double dot leads up, and stays at the root. -/
def enter (loc : Location) (part : String) : Location :=
  if part = ".." then loc.dropLast else loc ++ [part]

/-- Where a path leads from the current directory, by its components alone. -/
def resolve (cwd : Location) (p : Path) : Location :=
  p.parts.foldl enter (if p.anchor = .here then cwd else [])

/-- The text of a location. -/
def locationText (loc : Location) : String :=
  "/" ++ "/".intercalate loc

/-- A text with backslashes turned into slashes. -/
def forward (s : String) : String :=
  String.ofList (s.toList.map fun c => if c = '\\' then '/' else c)

/-- Whether a text holds U+0000, which no path on disk can. -/
def hasNull (s : String) : Bool :=
  s.toList.contains '\x00'

/-- The number of bytes that a component may have on disk. -/
def partLimit : Nat := 255

/-- The number of bytes that a written path may have when it is looked up. -/
def textLimit : Nat := 4095

/-- Whether the text of a path is too long to be looked up. -/
def isTooLong (p : Path) : Bool :=
  textLimit < p.text.utf8ByteSize

end Path

end ArityFill
