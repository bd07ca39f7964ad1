import ArityFill.Fault

/-! # The log

    What happens during a run is recorded as events. An event has a level and a wording; a wording
    that mentions a fault leaves its description to the one who shows the log.
-/

namespace ArityFill

/-- How much an event matters. -/
inductive Level where
  /-- Details of single changes. -/
  | debug
  /-- Progress. -/
  | info
  /-- Something was passed over. -/
  | warning
  /-- Something failed. -/
  | error
  deriving DecidableEq, Repr

/-- Something worth telling. -/
inductive Event where
  /-- There is no report to load. -/
  | noReport
  /-- A report could not be loaded. -/
  | loadFailed (report : String) (cause : Fault)
  /-- A report was loaded. -/
  | loaded (count total : Nat) (report : String)
  /-- A report was dropped from a cache. -/
  | dropped (report : String)
  /-- A reference was given arguments. -/
  | given (file name : String) (start stop : Int) (arity : Nat)
  /-- A file has no grammar. -/
  | skipped (file : String) (cause : Fault)
  /-- Filling in a file was stopped by a fault. -/
  | stopped (file : String) (cause : Fault)
  /-- A path names nothing. -/
  | missing (path : String)
  /-- A file is no text. -/
  | unreadable (file : String) (cause : Fault)
  /-- A file was changed. -/
  | filled (count : Nat) (file : String)
  deriving DecidableEq, Repr

namespace Event

/-- The level of an event. -/
def level : Event → Level
  | .noReport => .info
  | .loadFailed _ _ => .warning
  | .loaded _ _ _ => .info
  | .dropped _ => .debug
  | .given _ _ _ _ _ => .debug
  | .skipped _ _ => .warning
  | .stopped _ _ => .error
  | .missing _ => .warning
  | .unreadable _ _ => .warning
  | .filled _ _ => .info

/-- The wording of an event, given how faults are described. -/
def message (describe : Fault → String) : Event → String
  | .noReport => "No error report specified"
  | .loadFailed report cause => s!"Failed to load arity errors from {report}: {describe cause}"
  | .loaded count total report => s!"Loaded {count} arity errors (of {total} total) from {report}"
  | .dropped report => s!"Invalidated cached report {report}"
  | .given file name start stop arity =>
    s!"{file}: {name} at {start}:{stop} given {arity} type argument(s)"
  | .skipped file cause => s!"Skipping {file}: {describe cause}"
  | .stopped file _ => s!"Error while rewriting {file}"
  | .missing path => s!"Skipping missing path {path}"
  | .unreadable file cause => s!"Skipping unreadable file {file}: {describe cause}"
  | .filled count file => s!"Rewrote {count} type reference(s) in {file}"

/-- The fault that an event is a record of. -/
def failure? : Event → Option Fault
  | .stopped _ cause => some cause
  | _ => none

end Event

end ArityFill
