import ArityFill.Check
import ArityFill.Path.Key

/-! # Options

    What a user can set about filling in type arguments.
-/

namespace ArityFill

/-- The settings of a run. -/
structure Options where
  /-- The report of arity errors. -/
  errors : Option String := none
  /-- How the paths of the report are matched to files. -/
  matching : Matching := .basename
  /-- The type that fills each missing argument. -/
  placeholder : String := "any"
  /-- The language of all files, if not chosen by extension. -/
  language : Option String := none
  /-- A text that marks generated files, which are left alone. -/
  generatedMarker : String := "@generated"
  /-- A text that must stand in a file that is to be changed. -/
  optInMarker : String := "@flow"
  /-- Endings of file names that need no opt-in marker. -/
  declarationSuffixes : List String := [".js.flow"]
  deriving DecidableEq, Repr

namespace Options

/-- The name of a way to match. -/
def checkMatching : Json → Checked Matching
  | .string s =>
    match Matching.ofName? s with
    | some m => .ok m
    | none => Check.fail .notChoice
  | _ => Check.fail .notChoice

/-- The options that a JSON object gives. Absent members take their defaults, unknown members are
    passed over. -/
def ofJson (j : Json) : Checked Options := do
  let ms ← Check.object j
  let default : Options := {}
  let errors := Check.optional ms "errors" default.errors (Check.nullable Check.string)
  let matching := Check.optional ms "match" default.matching checkMatching
  let placeholder := Check.optional ms "placeholder" default.placeholder Check.string
  let language := Check.optional ms "language" default.language (Check.nullable Check.string)
  let generated := Check.optional ms "generated_marker" default.generatedMarker Check.string
  let optIn := Check.optional ms "opt_in_marker" default.optInMarker Check.string
  let suffixes := Check.optional ms "declaration_suffixes" default.declarationSuffixes
    (Check.sequence Check.string)
  let (e, m, p, l, g, o, d) ← Check.both errors <| Check.both matching <|
    Check.both placeholder <| Check.both language <| Check.both generated <|
    Check.both optIn suffixes
  return ⟨e, m, p, l, g, o, d⟩

end Options

end ArityFill
