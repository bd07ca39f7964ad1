import ArityFill.Path.Key
import ArityFill.Report.Entry

/-! # The index of a report

    An index groups the arity errors of a report by the key of their file. Groups stand in the
    order in which their keys first appear, and the errors of a group in the order of the report.
    Main operations:

    - `Index.ofEntries` builds the index of a report,
    - `Index.recordsFor` and `Index.hasRecords` look a file up by its path.
-/

namespace ArityFill.Report

/-- Errors by key. No group of an index is empty. -/
structure Index where
  /-- The groups, each with its key. -/
  groups : List (String × List ArityError)
  /-- How files are matched to keys. -/
  matching : Matching
  /-- The number of entries that the report had, of any kind. -/
  total : Nat
  deriving DecidableEq, Repr

/-- Puts an error at the end of the group of its key, which is made if there is none. -/
def addTo (key : String) (e : ArityError) :
    List (String × List ArityError) → List (String × List ArityError)
  | [] => [(key, [e])]
  | (k, es) :: rest => if k = key then (k, es ++ [e]) :: rest else (k, es) :: addTo key e rest

/-- Gives a key its group, in the place of an earlier group of that key. -/
def setGroup (key : String) (es : List ArityError) :
    List (String × List ArityError) → List (String × List ArityError)
  | [] => [(key, es)]
  | (k, old) :: rest => if k = key then (k, es) :: rest else (k, old) :: setGroup key es rest

namespace Index

/-- The index without errors. -/
def empty (m : Matching) : Index := ⟨[], m, 0⟩

/-- The index with given groups. Of a repeated key the last group counts, and empty groups are
    left out. -/
def ofGroups (groups : List (String × List ArityError)) (m : Matching) : Index :=
  let merged := groups.foldl (fun acc g => setGroup g.1 g.2 acc) []
  ⟨merged.filter fun g => !g.2.isEmpty, m, 0⟩

/-- The errors of a file. -/
def recordsFor (cwd : Location) (index : Index) (path : String) :
    Except Fault (List ArityError) :=
  match Path.key cwd index.matching path with
  | .ok key => .ok ((index.groups.lookup key).getD [])
  | .error f => .error f

/-- Whether there are errors for a file. -/
def hasRecords (cwd : Location) (index : Index) (path : String) : Except Fault Bool :=
  match Path.key cwd index.matching path with
  | .ok key => .ok (index.groups.lookup key).isSome
  | .error f => .error f

/-- The keys. -/
def files (index : Index) : List String :=
  index.groups.map Prod.fst

/-- The number of errors. -/
def size (index : Index) : Nat :=
  index.groups.foldr (fun g n => g.2.length + n) 0

/-- The arity error of one entry of a report. An entry of another shape reports none. -/
def entryError? (entry : Json) : Except Fault (Option ArityError) :=
  match checkEntry entry with
  | .ok messages => arityError? messages
  | .error _ => .ok none

/-- Adds the errors of some entries to groups, entry by entry. -/
def addEntries (cwd : Location) (m : Matching) (groups : List (String × List ArityError)) :
    List Json → Except Fault (List (String × List ArityError))
  | [] => .ok groups
  | entry :: entries =>
    match entryError? entry with
    | .error f => .error f
    | .ok none => addEntries cwd m groups entries
    | .ok (some e) =>
      match Path.key cwd m e.path with
      | .error f => .error f
      | .ok key => addEntries cwd m (addTo key e groups) entries

/-- The index of the entries of a report. -/
def ofEntries (cwd : Location) (m : Matching) (entries : List Json) : Except Fault Index :=
  match addEntries cwd m [] entries with
  | .ok groups => .ok ⟨groups, m, entries.length⟩
  | .error f => .error f

end Index

end ArityFill.Report
