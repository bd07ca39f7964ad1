import ArityFill.Command.Run
import ArityFill.Document.Recorded
import ArityFill.Json.Reader

/-! # The program

    Takes a picture of the files below the current directory, runs the command line on it, writes
    the files that changed, prints the output and tells the events on the error stream. The answers
    of the parser come from the file that the variable `ARITY_FILL_TREES` names: an array of
    recorded trees.
-/

open ArityFill

/-- Adds an entry of a directory, and what is below it, to a store. -/
partial def addEntry (above : Location) (store : Store) (e : IO.FS.DirEntry) : IO Store := do
  let loc := above ++ [e.fileName]
  if ← e.path.isDir then
    let mut store := store.makeFolder loc
    for below in ← e.path.readDir do
      store ← addEntry loc store below
    return store
  else
    return store.put loc (← IO.FS.readBinFile e.path).toList

/-- The recorded trees of a file. -/
def recordedTrees (file : String) : IO (List Recorded) := do
  match Json.read? .report (← IO.FS.readFile file).toList with
  | some (.array items) => return items.filterMap Recorded.ofJson?
  | _ => return []

/-- Writes the files whose content is not what it was. -/
def writeChanged (old new : Store) : IO Unit := do
  for (loc, content) in new.files do
    if old.files.lookup loc ≠ some content then
      IO.FS.writeBinFile (Path.locationText loc) (ByteArray.mk content.toArray)

/-- Runs the command line in the current directory. -/
def main (args : List String) : IO UInt32 := do
  let here ← IO.currentDir
  let cwd := (Path.ofString here.toString).parts
  let mut store := Store.makeFolder ⟨[], []⟩ cwd
  for e in ← here.readDir do
    store ← addEntry cwd store e
  let records ← match ← IO.getEnv "ARITY_FILL_TREES" with
    | some file => recordedTrees file
    | none => pure []
  let errors ← IO.getEnv Command.errorsVariable
  let env name := if name = Command.errorsVariable then errors else none
  let exit := Command.run ⟨cwd, Recorded.parser records⟩ store env args
  writeChanged store exit.store
  for e in exit.events do
    IO.eprintln (e.message Fault.message)
  for f in exit.fault.toList do
    IO.eprintln f.message
  for line in exit.output do
    IO.println line
  return exit.code.toUInt32
