import ArityFill.Check
import ArityFill.Report.Arity

/-! # Entries of a report

    An entry of a report is a list of messages. In an arity error the first message says where the
    type reference stands and the second says how many arguments it needs.
-/

namespace ArityFill.Report

/-- A place in a source file, as two byte offsets. A report may hold any integers here. -/
structure Place where
  /-- Where the place begins. -/
  start : Int
  /-- Where the place ends. -/
  stop : Int
  deriving DecidableEq, Repr

/-- A message of an entry. -/
structure Message where
  /-- The wording. -/
  description : String
  /-- The file that the message is about. -/
  path : Option String
  /-- The place that the message is about. -/
  place : Option Place
  deriving DecidableEq, Repr

/-- A type reference that needs explicit arguments. -/
structure ArityError where
  /-- The file, as the report names it. -/
  path : String
  /-- Where the reference begins. -/
  start : Int
  /-- Where the reference ends. -/
  stop : Int
  /-- How many arguments it needs. -/
  arity : Nat
  deriving DecidableEq, Repr

/-- Whether an error is about exactly the bytes of a span. -/
def ArityError.covers (e : ArityError) (span : Span) : Bool :=
  e.start = span.start ∧ e.stop = span.stop

/-- An offset inside a position. -/
def checkOffset (j : Json) : Checked Int := do
  Check.required (← Check.object j) "offset" Check.integer

/-- A place. -/
def checkPlace (j : Json) : Checked Place := do
  let ms ← Check.object j
  let (start, stop) ←
    Check.both (Check.required ms "start" checkOffset) (Check.required ms "end" checkOffset)
  return ⟨start, stop⟩

/-- A message. Only the wording, the file and the place are looked at, and each may be absent. -/
def checkMessage (j : Json) : Checked Message := do
  let ms ← Check.object j
  let description := Check.optional ms "descr" "" Check.string
  let path := Check.optional ms "path" none (Check.nullable Check.string)
  let place := Check.optional ms "loc" none (Check.nullable checkPlace)
  let (d, p, l) ← Check.both description (Check.both path place)
  return ⟨d, p, l⟩

/-- The messages of an entry. -/
def checkEntry (j : Json) : Checked (List Message) := do
  Check.required (← Check.object j) "message" (Check.list checkMessage)

/-- An arity error that is given member by member. -/
def checkArityError (j : Json) : Checked ArityError := do
  let ms ← Check.object j
  let path := Check.required ms "source_path" Check.string
  let start := Check.required ms "start_offset" Check.integer
  let stop := Check.required ms "end_offset" Check.integer
  let arity := Check.required ms "required_arity" Check.natural
  let (p, s, e, a) ← Check.both path (Check.both start (Check.both stop arity))
  return ⟨p, s, e, a⟩

/-- The arity error that the messages of an entry report, if they report one. The number is read
    before the place is looked at. -/
def arityError? : List Message → Except Fault (Option ArityError)
  | head :: second :: _ =>
    match arityOf second.description with
    | .error f => .error f
    | .ok none => .ok none
    | .ok (some arity) =>
      match head.path, head.place with
      | some path, some place => .ok (some ⟨path, place.start, place.stop, arity⟩)
      | _, _ => .ok none
  | _ => .ok none

end ArityFill.Report
