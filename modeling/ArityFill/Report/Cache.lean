import ArityFill.Report.Load

/-! # The cache of reports

    A cache keeps the index of each report and way to match that was asked for. A kept index stays
    until it is dropped, whatever happens to the report on disk in between. Each index that a cache
    loads has a number, by which two loads of one report are told apart.
-/

namespace ArityFill.Report

/-- What a cached index is found by: a report, and how its paths are matched. -/
structure CacheKey where
  /-- The report. -/
  report : Option String
  /-- How its paths are matched to files. -/
  matching : Matching
  deriving DecidableEq, Repr

/-- An index that was loaded. -/
structure Loaded where
  /-- The index. -/
  index : Index
  /-- How many indexes its cache had loaded before. -/
  number : Nat
  deriving DecidableEq, Repr

/-- Loaded indexes by key. -/
structure Cache where
  /-- The entries, oldest first. -/
  entries : List (CacheKey × Loaded) := []
  /-- How many indexes were loaded so far. -/
  loads : Nat := 0
  deriving DecidableEq, Repr

/-- The outcome of asking a cache. -/
structure Answer where
  /-- The index. -/
  found : Loaded
  /-- The cache after the question. -/
  cache : Cache
  /-- What there is to tell. -/
  events : List Event

namespace Cache

/-- The index for a report, loaded if the cache does not have it. A fault while loading leaves no
    trace in the cache. -/
def get (c : Cache) (store : Store) (cwd : Location) (report : Option String) (m : Matching) :
    Except Fault Answer :=
  match c.entries.lookup ⟨report, m⟩ with
  | some found => .ok ⟨found, c, []⟩
  | none =>
    match load store cwd report m with
    | .error f => .error f
    | .ok (index, event) =>
      let found : Loaded := ⟨index, c.loads⟩
      .ok ⟨found, ⟨c.entries ++ [(⟨report, m⟩, found)], c.loads + 1⟩, [event]⟩

/-- Drops everything. -/
def clear (c : Cache) : Cache :=
  { c with entries := [] }

/-- Drops a report, however it was matched. -/
def drop (c : Cache) (report : String) : Cache :=
  { c with entries := c.entries.filter fun e => e.1.report ≠ some report }

/-- Drops a report, or everything if none is named, and tells about the former. -/
def invalidate (c : Cache) : Option String → Cache × List Event
  | none => (c.clear, [])
  | some report => (c.drop report, [.dropped report])

/-- Whether the cache has an index for a report, however matched. -/
def contains (c : Cache) (report : Option String) : Bool :=
  c.entries.any fun e => e.1.report = report

/-- The number of indexes in the cache. -/
def size (c : Cache) : Nat :=
  c.entries.length

end Cache

end ArityFill.Report
