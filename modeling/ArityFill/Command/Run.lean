import ArityFill.Batch.Run
import ArityFill.Command.Arguments
import ArityFill.Command.Table

/-! # Running a command

    A command maps the file system, the environment and the command line to what it prints, what it
    tells, the file system afterwards and an exit code: 0 if all went well, 1 if a fault stopped
    it, and 2 if the command line was not in order.
-/

namespace ArityFill.Command

/-- What a command comes to. -/
structure Exit where
  /-- The exit code. -/
  code : Nat
  /-- The lines it prints. -/
  output : List String
  /-- The fault that stopped it. -/
  fault : Option Fault
  /-- What it tells. -/
  events : List Event
  /-- The file system afterwards. -/
  store : Store

/-- An overview of the command line. -/
def helpLines : List String :=
  ["Usage: [-v] run PATHS... [--errors FILE] [--match basename|path] [--placeholder TYPE]",
   "                         [--language NAME] [--ignore NAME]... [--dry-run]",
   "       [-v] inspect REPORT [--match basename|path] [--limit N]"]

/-- The number of references that an outcome gave arguments. -/
def filledCount (o : Batch.Outcome) : Nat :=
  match o.status with
  | .filled n => n
  | _ => 0

/-- Whether the file of an outcome was given new content. -/
def isFilled (o : Batch.Outcome) : Bool :=
  match o.status with
  | .filled _ => true
  | _ => false

/-- The lines that sum a batch up. -/
def summary (dryRun : Bool) (outcomes : List Batch.Outcome) : Except Fault (List String) :=
  let filled := outcomes.filter isFilled
  let rows := filled.map fun o => [o.path.text, toString (filledCount o)]
  let table := if rows.isEmpty then .ok [] else Table.render ["file", "rewritten"] rows
  let verb := if dryRun then "Would rewrite" else "Rewrote"
  let total := filled.foldr (fun o n => filledCount o + n) 0
  let unreadable := (outcomes.filter fun o => o.status = .unreadable).length
  table.map fun lines =>
    lines ++
    [s!"{verb} {total} type reference(s) in {filled.length} of {outcomes.length} file(s)"] ++
    (if unreadable = 0 then [] else [s!"Skipped {unreadable} unreadable file(s)"])

/-- The rows before a limit: the first ones, or all but the last ones if it is negative. -/
def takeLimit {α : Type} (limit : Int) (rows : List α) : List α :=
  if 0 ≤ limit then rows.take limit.toNat else rows.take (rows.length - (-limit).toNat)

/-- The rows of an index, key by key. -/
def indexRows (cwd : Location) (index : Report.Index) :
    List String → Except Fault (List (List String))
  | [] => .ok []
  | key :: keys =>
    match index.recordsFor cwd key, indexRows cwd index keys with
    | .ok errors, .ok rows =>
      .ok (errors.map (fun e => [key, toString e.start, toString e.stop, toString e.arity]) ++ rows)
    | .error f, _ => .error f
    | _, .error f => .error f

/-- The lines that list an index. -/
def listing (cwd : Location) (limit : Int) (index : Report.Index) : Except Fault (List String) :=
  match indexRows cwd index index.files with
  | .error f => .error f
  | .ok rows =>
    let shown := takeLimit limit rows
    (Table.render ["file", "start", "end", "arity"] shown).map fun lines =>
      lines ++ [s!"({shown.length} rows)",
        s!"{index.size} arity error(s) of {index.total} diagnostic(s)"]

/-- The exit of a command that printed some lines or was stopped. -/
def exitWith (lines : Except Fault (List String)) (events : List Event) (store : Store) : Exit :=
  match lines with
  | .ok lines => ⟨0, lines, none, events, store⟩
  | .error f => ⟨1, [], some f, events, store⟩

/-- Fulfils a request. -/
def fulfil (w : Workspace) (store : Store) : Request → Exit
  | .help => ⟨0, helpLines, none, [], store⟩
  | .run paths options ignored dryRun =>
    let r := Batch.run w store {} options dryRun ignored paths
    exitWith (r.returned.bind (summary dryRun)) r.events r.store
  | .inspect report m limit =>
    match Report.load store w.cwd (some report) m with
    | .error f => ⟨1, [], some f, [], store⟩
    | .ok (index, event) => exitWith (listing w.cwd limit index) [event] store

/-- The events that are told: details only on request. -/
def told (verbose : Bool) (events : List Event) : List Event :=
  events.filter fun e => verbose ∨ e.level ≠ .debug

/-- Runs a command line. -/
def run (w : Workspace) (store : Store) (env : String → Option String) (args : List String) :
    Exit :=
  match Invocation.ofArguments? env args with
  | none => ⟨2, [], none, [], store⟩
  | some i =>
    let exit := fulfil w store i.request
    { exit with events := told i.verbose exit.events }

end ArityFill.Command
