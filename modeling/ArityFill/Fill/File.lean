import ArityFill.Document.Backend
import ArityFill.Fill.Basic
import ArityFill.Report.Cache

/-! # Filling in one file

    Filling in a file never fails: whatever stops it is told, and the file counts as unchanged.
    The report is asked for through a cache, which may be different afterwards.
-/

namespace ArityFill

/-- What does not change during a run. -/
structure Workspace where
  /-- The current directory. -/
  cwd : Location
  /-- The parser. -/
  parser : Parser

/-- What filling in a file comes to. -/
structure FileResult where
  /-- The new text, if it changed, and the number of references. -/
  filled : Filled
  /-- The cache of reports afterwards. -/
  cache : Report.Cache
  /-- What there is to tell. -/
  events : List Event

/-- The backend of a file: one that is given is used as it is, and else the options and the name
    of the file choose a grammar. -/
def backendFor (w : Workspace) (o : Options) (path : String) :
    Option Backend → Except Fault Backend
  | some b => .ok b
  | none =>
    match Grammar.resolve o.language (some (Path.ofString path)) with
    | .ok g => .ok (Dialect.backend ⟨g, o.placeholder⟩ w.parser)
    | .error f => .error f

/-- Fills in a file under an index of errors. -/
def fillWithIndex (w : Workspace) (path source : String) (o : Options) (backend : Option Backend)
    (index : Report.Index) : Filled × List Event :=
  match index.hasRecords w.cwd path with
  | .error f => (.unchanged, [.stopped path f])
  | .ok false => (.unchanged, [])
  | .ok true =>
    match backendFor w o path backend with
    | .error f => (.unchanged, [.skipped path f])
    | .ok b =>
      match fill b w.cwd path source index o with
      | (.ok filled, events) => (filled, events)
      | (.error f, events) => (.unchanged, events ++ [.stopped path f])

/-- Fills in a file. -/
def fillFile (w : Workspace) (store : Store) (cache : Report.Cache) (path source : String)
    (o : Options) (backend : Option Backend) : FileResult :=
  match cache.get store w.cwd o.errors o.matching with
  | .error f => ⟨.unchanged, cache, [.stopped path f]⟩
  | .ok answer =>
    let (filled, events) := fillWithIndex w path source o backend answer.found.index
    ⟨filled, answer.cache, answer.events ++ events⟩

end ArityFill
