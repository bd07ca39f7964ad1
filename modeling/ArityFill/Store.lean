import ArityFill.Fault
import ArityFill.Path.Basic
import ArityFill.Text.Utf8

/-! # The file system

    Files and folders by location, without links. There are no permissions either: every folder can
    be listed, and every file can be read and written by whoever finds it. A `Store` is a plain
    value: reading looks it up, and overwriting gives the store in which one file has new content.
    `Store.find` follows a path the way an operating system does, so a double dot leads up only from
    a folder that exists.
-/

namespace ArityFill

/-- What stands at a location. -/
inductive Entry where
  /-- A file with its content. -/
  | file (content : Bytes)
  /-- A folder. -/
  | folder
  deriving DecidableEq, Repr

/-- Files with their content, and folders. The root is always a folder. -/
structure Store where
  /-- The files by location. -/
  files : List (Location × Bytes)
  /-- The folders below the root. -/
  folders : List Location
  deriving DecidableEq, Repr

namespace Store

/-- What stands at a location, if anything does. -/
def get? (s : Store) (loc : Location) : Option Entry :=
  match s.files.lookup loc with
  | some content => some (.file content)
  | none => if loc = [] ∨ loc ∈ s.folders then some .folder else none

/-- Follows components from a location. Everything on the way has to be a folder, and a component
    that is too long is found out by the folder in which it is looked up. -/
def follow (s : Store) : Location → List String → Except Fault Location
  | loc, [] => .ok loc
  | loc, part :: parts =>
    match s.get? loc with
    | some .folder =>
      if Path.partLimit < part.utf8ByteSize then .error .nameTooLong
      else follow s (Path.enter loc part) parts
    | some (.file _) => .error .notDirectory
    | none => .error .noFile

/-- The location that a path names, and what stands there. -/
def find (s : Store) (cwd : Location) (p : Path) : Except Fault (Location × Entry) :=
  if p.parts.any Path.hasNull then .error .nullInPath
  else if p.isTooLong then .error .nameTooLong
  else match s.follow (if p.anchor = .here then cwd else []) p.parts with
    | .error f => .error f
    | .ok loc =>
      match s.get? loc with
      | some e => .ok (loc, e)
      | none => .error .noFile

/-- The content of the file that a path names. -/
def read (s : Store) (cwd : Location) (p : Path) : Except Fault Bytes :=
  match s.find cwd p with
  | .ok (_, .file content) => .ok content
  | .ok (_, .folder) => .error .isDirectory
  | .error f => .error f

/-- The text of the file that a path names. -/
def readText (s : Store) (cwd : Location) (p : Path) : Except Fault String :=
  match s.read cwd p with
  | .ok content =>
    match Utf8.toString? content with
    | some text => .ok text
    | none => .error .notText
  | .error f => .error f

/-- The store in which the file at a location has new content. Nothing else changes, and nothing
    at all if no file is there. -/
def overwrite (s : Store) (loc : Location) (content : Bytes) : Store :=
  { s with files := s.files.map fun f => if f.1 = loc then (f.1, content) else f }

/-- The folders on the way to a location, itself included, outermost first. -/
def foldersTo (loc : Location) : List Location :=
  (List.range loc.length).map fun i => loc.take (i + 1)

/-- The store with a folder at a location, and the folders on the way to it. -/
def makeFolder (s : Store) (loc : Location) : Store :=
  { s with folders := s.folders ++ (foldersTo loc).filter fun f => f ∉ s.folders }

/-- The store with a file at a location, and the folders on the way to it. -/
def put (s : Store) (loc : Location) (content : Bytes) : Store :=
  if (s.files.lookup loc).isSome then s.overwrite loc content
  else
    let s := s.makeFolder loc.dropLast
    { s with files := s.files ++ [(loc, content)] }

/-- The store without the file at a location. -/
def remove (s : Store) (loc : Location) : Store :=
  { s with files := s.files.filter fun f => f.1 ≠ loc }

/-- The components that lead from a location to another one below it. -/
def below? (loc l : Location) : Option (List String) :=
  if loc.isPrefixOf l ∧ loc.length < l.length then some (l.drop loc.length) else none

/-- The files below a location, each by the components that lead to it from there. -/
def filesBelow (s : Store) (loc : Location) : List (List String) :=
  s.files.filterMap fun f => below? loc f.1

/-- The folders below a location, each by the components that lead to it from there. -/
def foldersBelow (s : Store) (loc : Location) : List (List String) :=
  s.folders.filterMap (below? loc)

end Store

end ArityFill
