import ArityFill.Document.Basic
import ArityFill.Json.Value
import ArityFill.Tree.Table

/-! # Recorded trees

    The parser for the grammars is a program of its own. Its answers can be recorded: for a grammar
    and a text, the tree as a table of rows. Recorded answers make up a parser again.
-/

namespace ArityFill

/-- What a parser answered. -/
structure Recorded where
  /-- The grammar it was asked for. -/
  grammar : Grammar
  /-- The text it was given. -/
  text : Bytes
  /-- The tree it gave back. -/
  root : Node

namespace Recorded

/-- The names of the roles in a recorded row. -/
def fieldNames : List (String × Field) :=
  [("name", .name), ("type_arguments", .typeArguments), ("type", .type), ("pattern", .pattern),
   ("module", .qualifier)]

/-- A role by its name. Other roles are as good as none. -/
def field? : Json → Option Field
  | .string s => fieldNames.lookup s
  | _ => none

/-- A row: the row of the parent or -1, the kind, the two offsets, whether it is named as 1 or 0,
    and the role. -/
def row? : Json → Option Row
  | .array [.integer parent, .string kind, .integer start, .integer stop, .integer named, field] =>
    some ⟨if parent < 0 then none else some parent.toNat, kind, ⟨start.toNat, stop.toNat⟩,
      named = 1, field? field⟩
  | _ => none

/-- A grammar by its name. -/
def grammar? (s : String) : Option Grammar :=
  [Grammar.tsx, Grammar.typescript].find? fun g => g.name = s

/-- A recorded answer. -/
def ofJson? : Json → Option Recorded
  | .object ms =>
    match Json.member? ms "grammar", Json.member? ms "text", Json.member? ms "nodes" with
    | some (.string g), some (.string t), some (.array rows) => do
      let grammar ← grammar? g
      let root ← Node.ofRows? (← rows.mapM row?)
      return ⟨grammar, Utf8.ofString t, root⟩
    | _, _, _ => none
  | _ => none

/-- The parser that answers as recorded. A text without a record is all error. -/
def parser (records : List Recorded) : Parser := fun g text =>
  match records.find? fun r => r.grammar = g ∧ r.text = text with
  | some r => r.root
  | none => ⟨"ERROR", ⟨0, text.length⟩, true, none, []⟩

end Recorded

end ArityFill
