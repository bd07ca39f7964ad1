import ArityFill.Check
import ArityFill.Span
import ArityFill.Text.Digit
import ArityFill.Text.Quoted

/-! # Faults

    Everything that can stop an operation, as a cause. The wording of a fault is in one place,
    `Fault.message`.
-/

namespace ArityFill

/-- Why an operation was stopped. -/
inductive Fault where
  /-- A run of digits is too long to be read as a number. -/
  | tooManyDigits (count : Nat)
  /-- A path holds the character U+0000. -/
  | nullInPath
  /-- The name of a way to match paths is not known. -/
  | unknownMatching (name : String)
  /-- The name of a language is not known. -/
  | unknownLanguage (name : String) (known : List String)
  /-- The extension of a file belongs to no grammar. -/
  | unknownExtension (suffix name : String)
  /-- There is neither a language nor a file name to choose a grammar by. -/
  | languageNotGiven
  /-- A node that was to receive arguments has no name to apply. -/
  | noName (kind : String) (span : Span)
  /-- A replacement covers bytes that an earlier one replaces. -/
  | overlap (span earlier : Span)
  /-- A byte string is not well-formed text. -/
  | notText
  /-- A file does not exist. -/
  | noFile
  /-- A directory stands where a file is expected. -/
  | isDirectory
  /-- A file stands where a directory is expected. -/
  | notDirectory
  /-- A path, or a component of one, has more bytes than a file system takes. -/
  | nameTooLong
  /-- A report is no JSON text, or not of the shape of a report. -/
  | malformedReport
  /-- A value does not have its expected shape. -/
  | invalid (failures : List Failure)
  /-- Markup closes what was not opened. -/
  | unopenedTag (tag : String)
  /-- The value of an action in markup is no literal. -/
  | malformedAction (value : String)
  /-- A component of a color in markup is no number. -/
  | malformedColor
  /-- A backend failed, for a reason of its own. -/
  | backendFailed (reason : String)
  deriving DecidableEq, Repr

namespace Fault

/-- The wording of a fault. -/
def message : Fault → String
  | .tooManyDigits count =>
    s!"Exceeds the limit ({Text.digitLimit} digits) for integer string conversion: value has " ++
    s!"{count} digits; use sys.set_int_max_str_digits() to increase the limit"
  | .nullInPath => "embedded null byte"
  | .unknownMatching name => s!"{Text.quoted name} is not a valid MatchStrategy"
  | .unknownLanguage name known =>
    s!"Unsupported language '{name}'. Choose one of: " ++ ", ".intercalate known
  | .unknownExtension suffix name =>
    let shown := if suffix.isEmpty then "(none)" else suffix
    s!"Unsupported file extension: {shown} in {name}"
  | .languageNotGiven => "Language must be provided when no file path is available."
  | .noName kind span => s!"Node {kind} at {span.text} has no name reference"
  | .overlap span earlier => s!"Replacement at {span.text} overlaps earlier edit at {earlier.text}"
  | .notText => "the bytes are not well-formed UTF-8"
  | .noFile => "no such file or directory"
  | .isDirectory => "is a directory"
  | .notDirectory => "not a directory"
  | .nameTooLong => "file name too long"
  | .malformedReport => "the report is malformed"
  | .invalid failures => s!"{failures.length} invalid value(s)"
  | .unopenedTag tag => s!"closing tag '{tag}' does not match any open tag"
  | .malformedAction value => s!"the value '{value}' of an action is not a literal"
  | .malformedColor => "a component of a color is not a number"
  | .backendFailed reason => reason

end Fault

end ArityFill
