import ArityFill.Event
import ArityFill.Json.Reader
import ArityFill.Report.Index
import ArityFill.Store

/-! # Loading a report

    A report that is not named, cannot be read or has the wrong shape gives the empty index, and an
    event that says so. Only the entries of a well-formed report can still stop the loading: by an
    arity of too many digits, or by a path that has no key.
-/

namespace ArityFill.Report

/-- The entries of a report, from its text. -/
def entries? (text : String) : Option (List Json) :=
  match Json.read? .report text.toList with
  | some (.object members) =>
    match Json.member? members "errors" with
    | some (.array entries) => some entries
    | _ => none
  | _ => none

/-- The entries of the report that a path names. -/
def readEntries (store : Store) (cwd : Location) (report : String) : Except Fault (List Json) :=
  match store.readText cwd (Path.ofString report) with
  | .error f => .error f
  | .ok text =>
    match entries? text with
    | some entries => .ok entries
    | none => .error .malformedReport

/-- The index of a report, and the event that tells how the loading went. -/
def load (store : Store) (cwd : Location) (report : Option String) (m : Matching) :
    Except Fault (Index × Event) :=
  match report with
  | none => .ok (.empty m, .noReport)
  | some path =>
    if path.isEmpty then .ok (.empty m, .noReport)
    else match readEntries store cwd path with
      | .error f => .ok (.empty m, .loadFailed path f)
      | .ok entries =>
        match Index.ofEntries cwd m entries with
        | .error f => .error f
        | .ok index => .ok (index, .loaded index.size index.total path)

end ArityFill.Report
