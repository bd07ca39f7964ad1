import ArityFill.Batch.Collect
import ArityFill.Fill.File

/-! # Filling in many files

    The files that some paths stand for are filled in one after the other, and a changed file is
    written back before the next one is read. Writing back changes the content of files and never
    which files there are, so what is to be visited can be listed at the start. A dry run does
    everything but the writing.

    A batch gives back what became of each file, unless the search for files was ended by a fault.
-/

namespace ArityFill.Batch

/-- What became of a file. -/
inductive Status where
  /-- It was given new content, or would have been in a dry run. -/
  | filled (count : Nat)
  /-- It stays as it is. -/
  | unchanged
  /-- It is no text. -/
  | unreadable
  deriving DecidableEq, Repr

/-- A visited file and what became of it. -/
structure Outcome where
  /-- The file. -/
  path : Path
  /-- What became of it. -/
  status : Status
  deriving DecidableEq, Repr

/-- How far a batch has come. -/
structure State where
  /-- The file system. -/
  store : Store
  /-- The cache of reports. -/
  cache : Report.Cache
  /-- The outcomes so far. -/
  outcomes : List Outcome
  /-- What there is to tell. -/
  events : List Event

/-- What a batch comes to. -/
structure Result where
  /-- The file system. -/
  store : Store
  /-- The cache of reports. -/
  cache : Report.Cache
  /-- What there is to tell. -/
  events : List Event
  /-- The outcomes of all visits. If a fault ended the search for files, it is all that is given
      back. -/
  returned : Except Fault (List Outcome)

/-- The store with new text for the file that a path names. -/
def writeBack (store : Store) (cwd : Location) (p : Path) (text : String) : Store :=
  match store.find cwd p with
  | .ok (loc, _) => store.overwrite loc (Utf8.ofString text)
  | .error _ => store

/-- Visits a file. -/
def visitFile (w : Workspace) (o : Options) (dryRun : Bool) (s : State) (p : Path) : State :=
  match s.store.readText w.cwd p with
  | .error f =>
    { s with
      outcomes := s.outcomes ++ [⟨p, .unreadable⟩]
      events := s.events ++ [.unreadable p.text f] }
  | .ok source =>
    let r := fillFile w s.store s.cache p.text source o none
    match r.filled.source with
    | none =>
      { s with
        cache := r.cache
        outcomes := s.outcomes ++ [⟨p, .unchanged⟩]
        events := s.events ++ r.events }
    | some text =>
      { s with
        store := if dryRun then s.store else writeBack s.store w.cwd p text
        cache := r.cache
        outcomes := s.outcomes ++ [⟨p, .filled r.filled.count⟩]
        events := s.events ++ r.events ++ [.filled r.filled.count p.text] }

/-- Visits what was found: a file is filled in, and a path that names nothing is told. -/
def visit (w : Workspace) (o : Options) (dryRun : Bool) (s : State) : Found → State
  | .file p => visitFile w o dryRun s p
  | .nothing p => { s with events := s.events ++ [.missing p.text] }

/-- Visits what was found, one after the other. -/
def visitAll (w : Workspace) (o : Options) (dryRun : Bool) (s : State) (found : List Found) :
    State :=
  found.foldl (visit w o dryRun) s

/-- A batch before its first visit. -/
def State.initial (store : Store) (cache : Report.Cache) : State :=
  ⟨store, cache, [], []⟩

/-- What a batch comes to after its last visit, given the fault that ended the search for files if
    there was one. -/
def State.finish (s : State) (fault : Option Fault) : Result where
  store := s.store
  cache := s.cache
  events := s.events
  returned :=
    match fault with
    | none => .ok s.outcomes
    | some f => .error f

/-- Fills in the files that some paths stand for. If the search for them was ended by a fault, the
    files that come before it are still filled in, but their outcomes are not given back. -/
def run (w : Workspace) (store : Store) (cache : Report.Cache) (o : Options) (dryRun : Bool)
    (ignored : List String) (paths : List String) : Result :=
  let collected := collect store w.cwd ignored paths
  (visitAll w o dryRun (.initial store cache) collected.found).finish collected.fault

end ArityFill.Batch
