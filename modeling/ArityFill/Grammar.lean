import ArityFill.Fault
import ArityFill.Path.Basic
import ArityFill.Text.Space

/-! # Grammars

    Two grammars are known to the parser. A grammar is selected by the name of a language, by an
    extension, or by the extension of a file.
-/

namespace ArityFill

/-- A grammar of the parser. -/
inductive Grammar where
  /-- TypeScript with JSX, also used for JavaScript and its Flow annotations. -/
  | tsx
  /-- TypeScript. -/
  | typescript
  deriving DecidableEq, Repr

namespace Grammar

/-- The name of a grammar. -/
def name : Grammar → String
  | .tsx => "tsx"
  | .typescript => "typescript"

/-- The languages in alphabetical order, each with its grammar. -/
def languages : List (String × Grammar) :=
  [("flow", .tsx), ("javascript", .tsx), ("js", .tsx), ("jsx", .tsx), ("ts", .typescript),
   ("tsx", .tsx), ("typescript", .typescript)]

/-- The extensions, each with its grammar. -/
def extensions : List (String × Grammar) :=
  [(".cjs", .tsx), (".js", .tsx), (".jsx", .tsx), (".mjs", .tsx), (".tsx", .tsx),
   (".flow", .typescript), (".ts", .typescript)]

/-- A text in lower case, as far as it matters here: a capital outside ASCII never has a letter of
    the two tables as its small form, so it may stay as it is. -/
def lower (s : String) : String :=
  String.ofList (s.toList.map Char.toLower)

/-- The grammar of an extension. -/
def ofExtension? (suffix : String) : Option Grammar :=
  extensions.lookup (lower suffix)

/-- The grammar that the name of a language, or an extension such as `.js`, stands for. Blanks
    around it and capitals do not matter. -/
def ofLanguage (language : String) : Except Fault Grammar :=
  let key := lower (String.ofList (Text.trim Text.isBlank language.toList))
  let found := if key.toList.head? = some '.' then extensions.lookup key else languages.lookup key
  match found with
  | some g => .ok g
  | none => .error (.unknownLanguage language (languages.map Prod.fst))

/-- The grammar of a file, by its extension. -/
def ofPath (p : Path) : Except Fault Grammar :=
  match ofExtension? p.suffix with
  | some g => .ok g
  | none => .error (.unknownExtension p.suffix p.name)

/-- Whether a file has the extension of a grammar. -/
def supports (p : Path) : Bool :=
  (ofExtension? p.suffix).isSome

/-- The grammar for a file: a language that is given wins over the extension. -/
def resolve (language : Option String) (p : Option Path) : Except Fault Grammar :=
  match language with
  | some l => if l.isEmpty then byPath p else ofLanguage l
  | none => byPath p
where
  /-- The choice when no language is given. -/
  byPath : Option Path → Except Fault Grammar
    | some p => ofPath p
    | none => .error .languageNotGiven

end Grammar

end ArityFill
