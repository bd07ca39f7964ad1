import ArityFill.Event
import ArityFill.Grammar
import ArityFill.Store

/-! # Collecting source files

    A path that names a file stands for that file. A path that names a folder stands for the files
    at any depth below it that have the extension of a grammar, unless an ignored name is on the
    way to them. They come in the order of their components, compared by code points. A path where
    nothing is stands for nothing.

    A path that is too long to be looked up ends the search. All folders below a folder are listed
    before any of its files is looked up; after that, files come up to the first one whose path is
    too long.
-/

namespace ArityFill.Batch

/-- The names of folders that are ignored if nothing else is said. -/
def defaultIgnored : List String := ["node_modules"]

/-- The order of components: by the first one that differs, a shorter list before a longer one. -/
def componentsLE : List String → List String → Bool
  | [], _ => true
  | _ :: _, [] => false
  | a :: as, b :: bs => if a = b then componentsLE as bs else a < b

/-- What a path stands for. -/
inductive Found where
  /-- A file to be visited. -/
  | file (path : Path)
  /-- Nothing is there. -/
  | nothing (path : Path)
  deriving DecidableEq, Repr

/-- What some paths stand for, up to the first one that cannot be looked up at all. -/
structure Collected where
  /-- What was found, path by path. -/
  found : List Found
  /-- The fault that ended the search. -/
  fault : Option Fault
  deriving DecidableEq, Repr

/-- The files below a folder that are looked up: those that no ignored name leads to. -/
def candidates (store : Store) (ignored : List String) (loc : Location) (p : Path) : List Path :=
  let below := (store.filesBelow loc).filter fun below => !below.any ignored.contains
  (below.mergeSort componentsLE).map p.join

/-- What a folder stands for. -/
def expandFolder (store : Store) (ignored : List String) (loc : Location) (p : Path) : Collected :=
  if (store.foldersBelow loc).any fun below => (p.join below).isTooLong then
    ⟨[], some .nameTooLong⟩
  else
    let files := candidates store ignored loc p
    let reached := files.takeWhile fun q => !q.isTooLong
    ⟨(reached.filter Grammar.supports).map .file,
      if files.any Path.isTooLong then some .nameTooLong else none⟩

/-- What one path stands for. -/
def expand (store : Store) (cwd : Location) (ignored : List String) (path : String) : Collected :=
  let p := Path.ofString path
  match store.find cwd p with
  | .ok (_, .file _) => ⟨[.file p], none⟩
  | .ok (loc, .folder) => expandFolder store ignored loc p
  | .error .nameTooLong => ⟨[], some .nameTooLong⟩
  | .error _ => ⟨[.nothing p], none⟩

/-- What some paths stand for. -/
def collect (store : Store) (cwd : Location) (ignored : List String) : List String → Collected
  | [] => ⟨[], none⟩
  | path :: paths =>
    let first := expand store cwd ignored path
    match first.fault with
    | some _ => first
    | none =>
      let rest := collect store cwd ignored paths
      ⟨first.found ++ rest.found, rest.fault⟩

/-- The files among what was found. -/
def Found.file? : Found → Option Path
  | .file p => some p
  | .nothing _ => none

/-- What there is to tell about what was found. -/
def Found.event? : Found → Option Event
  | .file _ => none
  | .nothing p => some (.missing p.text)

end ArityFill.Batch
