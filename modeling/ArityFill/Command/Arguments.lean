import ArityFill.Batch.Collect
import ArityFill.Options

/-! # The command line

    A command line has options for the program, the name of a command, and options and words for
    the command. Long options take their value after an equals sign or as the next word, short
    ones can be run together, and two dashes end the options. `Invocation.ofArguments?` has no
    answer for a command line that is not in order.
-/

namespace ArityFill.Command

/-- An option. -/
structure Switch where
  /-- Its long name, with the dashes. -/
  long : String
  /-- Its short name. -/
  short : Option Char := none
  /-- Whether it takes a value. -/
  valued : Bool := false

/-- The options that were given, with their values, and the words that are left. -/
structure Given where
  /-- The options in their order, by long name. Those that take no value have an empty one. -/
  switches : List (String × String)
  /-- The words. -/
  words : List String

namespace Given

/-- Whether an option was given. -/
def has (g : Given) (long : String) : Bool :=
  g.switches.any fun s => s.1 = long

/-- The values of an option. -/
def all (g : Given) (long : String) : List String :=
  (g.switches.filter fun s => s.1 = long).map Prod.snd

/-- The value of an option that counts, which is the last one. -/
def last? (g : Given) (long : String) : Option String :=
  (g.all long).getLast?

end Given

/-- What one word that begins with a dash comes to. -/
inductive Reading where
  /-- Options without a value. -/
  | flags (names : List String)
  /-- An option and its value. -/
  | value (name text : String)
  /-- An option whose value is the next word. -/
  | awaiting (name : String)

/-- Reads a long option. -/
def readLong (switches : List Switch) (cs : List Char) : Option Reading :=
  let name := String.ofList (cs.takeWhile (· ≠ '='))
  let rest := cs.dropWhile (· ≠ '=')
  match switches.find? fun s => s.long = name with
  | none => none
  | some s =>
    match rest with
    | [] => some (if s.valued then .awaiting name else .flags [name])
    | _ :: text => if s.valued then some (.value name (String.ofList text)) else none

/-- Reads short options that are run together. None of them takes a value. -/
def readShort (switches : List Switch) : List Char → Option (List String)
  | [] => some []
  | c :: cs =>
    match switches.find? fun s => s.short = some c ∧ !s.valued with
    | none => none
    | some s => (readShort switches cs).map (s.long :: ·)

/-- Reads a word that begins with a dash. -/
def readSwitch (switches : List Switch) : List Char → Option Reading
  | '-' :: '-' :: cs => readLong switches ('-' :: '-' :: cs)
  | '-' :: cs => (readShort switches cs).map .flags
  | _ => none

/-- Whether a word is an option and not an argument. A single dash is an argument. -/
def isSwitch (arg : String) : Bool :=
  match arg.toList with
  | '-' :: _ :: _ => true
  | _ => false

/-- Sorts the words of a command line. If options may not follow arguments, the first argument
    ends the options. -/
def sort? (switches : List Switch) (mixed : Bool) : List String → Option Given
  | [] => some ⟨[], []⟩
  | arg :: rest =>
    if arg = "--" then some ⟨[], rest⟩
    else if isSwitch arg then
      match readSwitch switches arg.toList with
      | none => none
      | some (.flags names) =>
        (sort? switches mixed rest).map fun g => ⟨names.map (·, "") ++ g.switches, g.words⟩
      | some (.value name text) =>
        (sort? switches mixed rest).map fun g => ⟨(name, text) :: g.switches, g.words⟩
      | some (.awaiting name) =>
        match rest with
        | [] => none
        | text :: rest =>
          (sort? switches mixed rest).map fun g => ⟨(name, text) :: g.switches, g.words⟩
    else if mixed then (sort? switches mixed rest).map fun g => ⟨g.switches, arg :: g.words⟩
    else some ⟨[], arg :: rest⟩

/-- The request for help, which every command takes. -/
def helpSwitch : Switch := { long := "--help", short := some 'h' }

/-- The options of the program. -/
def globalSwitches : List Switch :=
  [helpSwitch, { long := "--verbose", short := some 'v' }]

/-- The options of the command that fills in files. -/
def runSwitches : List Switch :=
  [helpSwitch, { long := "--errors", valued := true }, { long := "--match", valued := true },
   { long := "--placeholder", valued := true }, { long := "--language", valued := true },
   { long := "--ignore", valued := true }, { long := "--dry-run" }]

/-- The options of the command that lists a report. -/
def inspectSwitches : List Switch :=
  [helpSwitch, { long := "--match", valued := true }, { long := "--limit", valued := true }]

/-- The environment variable that names a report if no option does. -/
def errorsVariable : String := "STRICT_TYPE_ARGS_ERRORS"

/-- What is asked for. -/
inductive Request where
  /-- An overview of the command line. -/
  | help
  /-- Filling in files. -/
  | run (paths : List String) (options : Options) (ignored : List String) (dryRun : Bool)
  /-- Listing a report, at most `limit` rows; a negative limit leaves rows off at the end. -/
  | inspect (report : String) (matching : Matching) (limit : Int)

/-- A request, and whether details are to be told. -/
structure Invocation where
  /-- Whether details are to be told. -/
  verbose : Bool
  /-- What is asked for. -/
  request : Request

/-- The way to match that is asked for. -/
def matching? (g : Given) : Option Matching :=
  match g.last? "--match" with
  | none => some .basename
  | some name => Matching.ofName? name

/-- The request for filling in files. -/
def runRequest? (env : String → Option String) (args : List String) : Option Request := do
  let g ← sort? runSwitches true args
  if g.has "--help" then return .help
  if g.words.isEmpty then none
  let m ← matching? g
  let fromEnv := (env errorsVariable).filter fun v => !v.isEmpty
  let default : Options := {}
  let options : Options := { default with
    errors := (g.last? "--errors").or fromEnv
    matching := m
    placeholder := (g.last? "--placeholder").getD default.placeholder
    language := g.last? "--language" }
  let ignored := g.all "--ignore"
  return .run g.words options (if ignored.isEmpty then Batch.defaultIgnored else ignored)
    (g.has "--dry-run")

/-- The request for listing a report. -/
def inspectRequest? (args : List String) : Option Request := do
  let g ← sort? inspectSwitches true args
  if g.has "--help" then return .help
  let m ← matching? g
  let limit ← match g.last? "--limit" with
    | none => some 50
    | some text => (Text.readInteger text.toList).toOption
  match g.words with
  | [report] => return .inspect report m limit
  | _ => none

/-- The invocation that a command line stands for, if it is in order. -/
def Invocation.ofArguments? (env : String → Option String) (args : List String) :
    Option Invocation := do
  let g ← sort? globalSwitches false args
  let verbose := g.has "--verbose"
  if g.has "--help" then return ⟨verbose, .help⟩
  match g.words with
  | "run" :: rest => return ⟨verbose, ← runRequest? env rest⟩
  | "inspect" :: rest => return ⟨verbose, ← inspectRequest? rest⟩
  | _ => none

end ArityFill.Command
