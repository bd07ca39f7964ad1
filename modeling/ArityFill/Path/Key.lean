import ArityFill.Fault
import ArityFill.Path.Basic

/-! # Keys that stand for files

    A report and the files on disk may name one file by different paths. A key makes the two
    comparable. Matching by base name compares the last components only, matching by path compares
    where the paths lead from the current directory.
-/

namespace ArityFill

/-- How the paths of a report are matched to files. -/
inductive Matching where
  /-- By the last component. -/
  | basename
  /-- By the whole path. -/
  | path
  deriving DecidableEq, Repr

namespace Matching

/-- The name of a way to match. -/
def name : Matching → String
  | .basename => "basename"
  | .path => "path"

/-- The way to match that a name stands for. -/
def ofName? (s : String) : Option Matching :=
  if s = "basename" then some .basename
  else if s = "path" then some .path
  else none

/-- The way to match that a name stands for, or a fault that shows the name. -/
def ofName (s : String) : Except Fault Matching :=
  match ofName? s with
  | some m => .ok m
  | none => .error (.unknownMatching s)

end Matching

namespace Path

/-- A character that ends the directory part of a path. -/
def isSeparator (c : Char) : Bool :=
  c = '/' ∨ c = '\\'

/-- The base name of a path. Directories are stripped from its first line only: a separator after
    a line break stays. -/
def basename (cs : List Char) : List Char :=
  let line := cs.takeWhile (· ≠ '\n')
  Text.afterLast isSeparator line ++ cs.drop line.length

/-- The key of a path. By base name every path has one; by path the key is the text of the
    location, and U+0000 makes it a fault. -/
def key (cwd : Location) : Matching → String → Except Fault String
  | .basename, s => .ok (String.ofList (basename s.toList))
  | .path, s =>
    if hasNull s then .error .nullInPath
    else .ok (locationText (resolve cwd (ofString (forward s))))

end Path

end ArityFill
