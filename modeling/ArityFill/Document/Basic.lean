import ArityFill.Grammar
import ArityFill.Source.Mask
import ArityFill.Tree.Basic

/-! # Parsed source files

    A parser is a function of the grammar and of a byte string. Before it sees a source, the source
    is masked. Spreads in object types (`{...T}`) can only be told apart in the tree of the masked
    text; if there are any, they are blanked out and the text is parsed once more. The grammar then
    has no name for what followed a spread, so the places of those names are kept.
-/

namespace ArityFill

/-- A parser for the known grammars. -/
abbrev Parser := Grammar → Bytes → Node

/-- How a source file is read and what fills its missing arguments. -/
structure Dialect where
  /-- The grammar. -/
  grammar : Grammar
  /-- The type that fills a missing argument. -/
  placeholder : String
  deriving DecidableEq, Repr

/-- The dialect of a language. -/
def Dialect.ofLanguage (language placeholder : String) : Except Fault Dialect :=
  match Grammar.ofLanguage language with
  | .ok g => .ok ⟨g, placeholder⟩
  | .error f => .error f

namespace Source

/-- The parents under which three dots spread a value and not an object type. -/
def valueSpreadParents : List String :=
  ["spread_element", "rest_pattern", "rest_type"]

/-- Whether a node is the dots of an object type spread. -/
def isTypeSpread (n : Located) : Bool :=
  n.node.kind = "..." &&
    match n.parent? with
    | none => true
    | some p => !valueSpreadParents.contains p.kind

/-- The spans of the object type spreads of a tree. -/
def typeSpreads (root : Node) : List Span :=
  (root.walk.filter isTypeSpread).map fun n => n.node.span

/-- What parsing a source comes to. -/
structure Parse where
  /-- The texts that the parser was given: the masked source, and then the one without spreads if
      there were any. -/
  texts : List Bytes
  /-- The tree of the last text. -/
  root : Node
  /-- The offsets of what follows the spreads that were blanked out. -/
  spreadNames : List Nat

/-- Parses a source. -/
def parse (parser : Parser) (grammar : Grammar) (source : Bytes) : Parse :=
  let masked := mask source
  let root := parser grammar masked
  match typeSpreads root with
  | [] => ⟨[masked], root, []⟩
  | s :: ss =>
    let plain := (s :: ss).foldl Bytes.blankOut masked
    ⟨[masked, plain], parser grammar plain, (s :: ss).map fun s => plain.skipForward s.stop⟩

end Source

/-- A replacement of a span by a text. -/
structure Edit where
  /-- The bytes that are replaced. -/
  span : Span
  /-- What replaces them. -/
  text : Bytes
  deriving DecidableEq, Repr

/-- A parsed source file with replacements that are still to be made. All spans are spans of the
    unmasked source. -/
structure Document where
  /-- The source, unmasked. -/
  source : Bytes
  /-- The syntax tree. -/
  root : Node
  /-- The type that fills a missing argument. -/
  placeholder : String
  /-- The offsets of names that followed an object type spread. -/
  spreadNames : List Nat
  /-- The replacements, in the order in which they were asked for. -/
  edits : List Edit

namespace Document

/-- The document of a source text, without any replacement yet. -/
def ofSource (parser : Parser) (dialect : Dialect) (source : String) : Document :=
  let bytes := Utf8.ofString source
  let parse := Source.parse parser dialect.grammar bytes
  ⟨bytes, parse.root, dialect.placeholder, parse.spreadNames, []⟩

/-- The text of a node in the source. -/
def textOf (d : Document) (n : Node) : Except Fault String :=
  match Utf8.toString? (d.source.slice n.span) with
  | some s => .ok s
  | none => .error .notText

end Document

end ArityFill
