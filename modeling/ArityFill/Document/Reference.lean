import ArityFill.Document.Basic

/-! # Type references

    Which nodes of a tree refer to a type that could take arguments. There are three sorts:

    - applied types and type names that stand where a type is used and not declared,
    - bare names in the parameter list of a function type, as in `(Props) => void`,
    - names that followed an object type spread.

    The grammar is that of TypeScript, so the last two come out of the parser as plain identifiers
    and are found by where they stand.
-/

namespace ArityFill

/-- The kinds of nodes that are a plain name. -/
def plainNames : List String :=
  ["type_identifier", "identifier", "property_identifier"]

/-- The kinds of nodes that can be a type reference wherever they stand. -/
def referenceKinds : List String :=
  ["generic_type", "type_identifier", "nested_type_identifier"]

/-- The kinds of nodes under which a type name is part of a larger reference, or is bound. -/
def enclosingKinds : List String :=
  ["generic_type", "nested_type_identifier", "infer_type"]

/-- The kinds of nodes whose name declares a type. -/
def declarationKinds : List String :=
  ["abstract_class_declaration", "class", "class_declaration", "interface_declaration",
   "mapped_type_clause", "type_alias_declaration", "type_parameter"]

namespace Located

/-- Whether a type name is used and not declared. Under a declaration the name is known by its
    span and kind. -/
def isTypeUse (n : Located) : Bool :=
  if n.node.kind = "generic_type" then true
  else match n.parent? with
    | none => true
    | some p =>
      if enclosingKinds.contains p.kind then false
      else if declarationKinds.contains p.kind then
        match p.child? .name with
        | none => true
        | some declared => !declared.sameSpan n.node
      else true

/-- Whether a name is a bare type in the parameter list of a function type. -/
def isUnnamedParameter (n : Located) : Bool :=
  match n.above with
  | parameter :: rest =>
    parameter.kind = "required_parameter" &&
    (parameter.child? .type).isNone &&
    (match parameter.child? .pattern with
      | none => false
      | some pattern => pattern.sameSpan n.node) &&
    match rest with
    | parameters :: function :: _ =>
      parameters.kind = "formal_parameters" && function.kind = "function_type"
    | _ => false
  | [] => false

end Located

namespace Document

/-- Whether a node is a name that followed an object type spread. -/
def isSpreadName (d : Document) (n : Node) : Bool :=
  d.spreadNames.contains n.span.start && plainNames.contains n.kind && n.children.isEmpty

/-- Whether a node is a reference to a type that could take arguments. After a percent sign stands
    the name of a predicate, which the grammar takes for a type. -/
def isReference (d : Document) (n : Located) : Bool :=
  if d.isSpreadName n.node then true
  else if n.node.kind = "identifier" then n.isUnnamedParameter
  else if !referenceKinds.contains n.node.kind then false
  else if d.source.lastSolid? n.node.span.start = some (byte '%') then false
  else n.isTypeUse

/-- The type references of a document, in the order of the walk. -/
def references (d : Document) : List Located :=
  d.root.walk.filter d.isReference

/-- The part of a reference that names the type. -/
def nameNode? (n : Node) : Option Node :=
  if n.kind = "generic_type" then n.child? .name
  else if plainNames.contains n.kind ∨ n.kind = "nested_type_identifier" then some n
  else none

/-- Whether a reference already has arguments. The grammar attaches no arguments to a bare
    parameter or spread name, so there the next byte of the source has to tell. -/
def hasArguments (d : Document) (n : Node) : Bool :=
  if n.kind = "generic_type" then
    match n.child? .typeArguments with
    | none => false
    | some args => args.children.any Node.named
  else if n.kind = "identifier" ∨ n.kind = "property_identifier" then
    d.source.nextSolid? n.span.stop = some (byte '<')
  else false

/-- The name that a reference refers to, if it is a name or a name with one qualifier. -/
def nameOf? (d : Document) (n : Node) : Except Fault (Option String) :=
  match nameNode? n with
  | none => .ok none
  | some name =>
    if plainNames.contains name.kind then (d.textOf name).map some
    else if name.kind = "nested_type_identifier" then
      match name.child? .qualifier, name.child? .name with
      | some qualifier, some ident =>
        if qualifier.kind = "identifier" then do
          let q ← d.textOf qualifier
          let i ← d.textOf ident
          return some s!"{q}.{i}"
        else .ok none
      | _, _ => .ok none
    else .ok none

/-- The text of a reference applied to arguments. -/
def application (d : Document) (n : Node) (args : List String) : Except Fault String :=
  match nameNode? n with
  | none => .error (.noName n.kind n.span)
  | some name => (d.textOf name).map fun t => t ++ "<" ++ ", ".intercalate args ++ ">"

end Document

end ArityFill
