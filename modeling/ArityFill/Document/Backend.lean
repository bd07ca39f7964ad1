import ArityFill.Backend
import ArityFill.Document.Edit
import ArityFill.Document.Reference

/-! # Documents as a backend

    A document answers for its tree: the nodes are located nodes, and all that can go wrong is that
    bytes are no text, that a reference has no name, or that replacements overlap. A dialect and a
    parser make up the backend that gives such documents.
-/

namespace ArityFill

/-- A span as a place. -/
def Span.place (s : Span) : Report.Place :=
  ⟨s.start, s.stop⟩

/-- Whether a node is a `typeof` with its operand. -/
def Located.isTypeOf (n : Located) : Bool :=
  n.node.kind = "type_query"

instance : SyntaxTree Document Located where
  references d := .ok d.references
  ancestors _ n := n.ancestors.map .ok
  isTypeOf _ n := .ok n.isTypeOf
  place _ n := .ok n.node.span.place
  hasArguments d n := .ok (d.hasArguments n.node)
  nameOf? d n := d.nameOf? n.node
  placeholder d := .ok d.placeholder
  application d n args := d.application n.node args
  replace d n text := d.replace n.node text
  toSource d := d.toSource

/-- The backend of a dialect. Its parser always gives a tree. -/
def Dialect.backend (dialect : Dialect) (parser : Parser) : Backend where
  Tree := Document
  Ref := Located
  parse source := .ok (.ofSource parser dialect source)

end ArityFill
