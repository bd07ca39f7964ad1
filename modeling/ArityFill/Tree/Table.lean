import ArityFill.Tree.Basic

/-! # Trees as tables

    A tree can be written as a table with a row for each node, a parent before its children and
    children from left to right. A row names the row of its parent.
-/

namespace ArityFill

/-- A row of a table: a node without its children. -/
structure Row where
  /-- The row of the parent; the root has none. -/
  parent : Option Nat
  /-- The kind of the node. -/
  kind : String
  /-- The bytes that the node covers. -/
  span : Span
  /-- Whether the node is more than punctuation or a keyword. -/
  named : Bool
  /-- The role of the node for its parent. -/
  field : Option Field
  deriving DecidableEq, Repr

namespace Row

/-- The node of a row with its children. -/
def toNode (r : Row) (children : List Node) : Node :=
  ⟨r.kind, r.span, r.named, r.field, children⟩

/-- The trees of some rows that are the last ones of a table, the first of them being row `i`. Each
    tree comes with the row that its root belongs below. A row takes the trees that belong below
    it out of the trees of the later rows. -/
def forest (i : Nat) : List Row → List (Option Nat × Node)
  | [] => []
  | r :: rows =>
    let later := forest (i + 1) rows
    let own := later.filter fun t => t.1 = some i
    let others := later.filter fun t => t.1 ≠ some i
    (r.parent, r.toNode (own.map Prod.snd)) :: others

end Row

/-- The tree that a table writes, rooted at its first row. -/
def Node.ofRows? (rows : List Row) : Option Node :=
  (Row.forest 0 rows).head?.map Prod.snd

end ArityFill
