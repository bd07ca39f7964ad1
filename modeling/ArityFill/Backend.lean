import ArityFill.Fault
import ArityFill.Report.Entry

/-! # Backends

    Filling in does not know how a text is parsed. It takes a `Backend`, which gives a tree for a
    text, and asks that tree what it has to know about the type references. What kind of thing a
    tree or a node is, is up to the backend.

    Whatever a backend is asked may end in a fault. Asking a tree changes nothing in it; the one
    thing that does is `SyntaxTree.replace`, and it gives the tree with one more replacement.
-/

namespace ArityFill

/-- What a tree of type `τ` can be asked, whose nodes are of type `ν`. -/
class SyntaxTree (τ : Type) (ν : outParam Type) where
  /-- The type references, in the order in which they are gone through. -/
  references : τ → Except Fault (List ν)
  /-- The ancestors of a node, the parent first. Each is only reached when it is asked for, so a
      fault does not come before the ancestors below it have been looked at. -/
  ancestors : τ → ν → List (Except Fault ν)
  /-- Whether a node is a `typeof`. -/
  isTypeOf : τ → ν → Except Fault Bool
  /-- The place of a node in the source. -/
  place : τ → ν → Except Fault Report.Place
  /-- Whether a reference already has arguments. -/
  hasArguments : τ → ν → Except Fault Bool
  /-- The name that a reference refers to, if it has one. -/
  nameOf? : τ → ν → Except Fault (Option String)
  /-- The type that fills a missing argument. -/
  placeholder : τ → Except Fault String
  /-- The text of a reference applied to arguments. -/
  application : τ → ν → List String → Except Fault String
  /-- The tree in which a node is to be replaced by a text. -/
  replace : τ → ν → String → Except Fault τ
  /-- The source text with all replacements made. -/
  toSource : τ → Except Fault String

/-- A way to parse source texts. -/
structure Backend where
  /-- The trees that it gives. -/
  Tree : Type
  /-- The nodes of its trees. -/
  Ref : Type
  /-- What its trees can be asked. -/
  [operations : SyntaxTree Tree Ref]
  /-- The tree of a text. -/
  parse : String → Except Fault Tree

attribute [instance] Backend.operations

end ArityFill
