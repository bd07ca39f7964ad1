import ArityFill.Proofs.Document.Shift
import ArityFill.Proofs.Source.Blanked
import ArityFill.Proofs.Tree.Preorder
import ArityFill.Proofs.Tree.Siblings

/-! # References by where they stand

    Two rules for type references compare a node with a child of its parent: a type name with the
    name that is declared, and an identifier with the pattern of a parameter. They do it by kind and
    span. Since that finds the child itself, if siblings share no byte, the rules can be stated by
    where a node stands in the tree, without any comparison:

    - `isTypeUse_iff`: a type name is used unless it is declared or part of a larger type,
    - `isUnnamedParameter_iff`: a bare name stands directly in the parameters of a function type,
    - `isReference_iff`: these two, applied types, and the percent sign make up `Document.Refers`.

    What a rule sees of the ancestors comes first, and then the node itself is put in place of what
    looks like it.
-/

namespace ArityFill

/-! ## Names that are declared, and parts of types -/

/-- Whether a node declares the type that its name names: a class, an interface, the key of a mapped
    type, an alias, or a type parameter. -/
def Node.DeclaresType (p : Node) : Prop :=
  p.kind = "abstract_class_declaration" ∨ p.kind = "class" ∨ p.kind = "class_declaration" ∨
    p.kind = "interface_declaration" ∨ p.kind = "mapped_type_clause" ∨
    p.kind = "type_alias_declaration" ∨ p.kind = "type_parameter"

theorem Node.declaresType_iff {p : Node} : p.DeclaresType ↔ p.kind ∈ declarationKinds := by
  simp [DeclaresType, declarationKinds]

/-- Whether a node is the name of a type, plain or nested. -/
def Node.IsTypeName (n : Node) : Prop :=
  n.kind = "type_identifier" ∨ n.kind = "nested_type_identifier"

theorem Node.isTypeName_iff {n : Node} :
    n.IsTypeName ↔ n.kind ∈ referenceKinds ∧ n.kind ≠ "generic_type" := by
  unfold IsTypeName
  simp only [referenceKinds, List.mem_cons, List.not_mem_nil, or_false]
  grind

namespace Located

/-- Whether a node is the name of a declaration: its first child in the role of a name. -/
def IsDeclared (root : Node) (n : Located) : Prop :=
  ∃ p, root.Has p ∧ p.node.DeclaresType ∧ p.IsFirst .name n

/-- Whether a node is a child of an applied type or of a nested name, or is bound by `infer`. -/
def IsPartOfType (root : Node) (n : Located) : Prop :=
  ∃ p, root.Has p ∧ n ∈ p.children ∧
    (p.node.kind = "generic_type" ∨ p.node.kind = "nested_type_identifier" ∨
      p.node.kind = "infer_type")

/-- Whether a node is a bare name among the parameters of a function type: the pattern of a
    parameter without a type. -/
def IsBareParameter (root : Node) (n : Located) : Prop :=
  ∃ function parameters parameter : Located, root.Has function ∧
    function.node.kind = "function_type" ∧
    parameters ∈ function.children ∧ parameters.node.kind = "formal_parameters" ∧
    parameter ∈ parameters.children ∧ parameter.node.kind = "required_parameter" ∧
    (∀ c ∈ parameter.children, c.node.field ≠ some .type) ∧ parameter.IsFirst .pattern n

section
variable {root : Node} {p n : Located}

/-- What the rule for type names sees of the parent. -/
theorem isTypeUse_of_mem_children (hn : n ∈ p.children) (hname : n.node.IsTypeName) :
    n.isTypeUse = true ↔ p.node.kind ∉ enclosingKinds ∧
      ¬ (p.node.kind ∈ declarationKinds ∧
        (p.node.child? .name).any (fun c => c.sameSpan n.node) = true) := by
  unfold isTypeUse
  rw [if_neg (Node.isTypeName_iff.mp hname).2, parent?_of_mem_children hn]
  simp only [List.contains_iff_mem]
  by_cases henclosing : p.node.kind ∈ enclosingKinds
  · simp [henclosing]
  · by_cases hdeclares : p.node.kind ∈ declarationKinds
    · -- Only here is a child of the parent compared with the node.
      cases p.node.child? .name with
      | none => simp [henclosing, hdeclares]
      | some declared => simp [henclosing, hdeclares]
    · simp [henclosing, hdeclares]

/-- The parent of a node decides whether the node is part of a type. -/
theorem isPartOfType_of_mem_children (hp : root.Has p) (hn : n ∈ p.children) :
    n.IsPartOfType root ↔ p.node.kind ∈ enclosingKinds := by
  have hkinds : p.node.kind ∈ enclosingKinds ↔ p.node.kind = "generic_type" ∨
      p.node.kind = "nested_type_identifier" ∨ p.node.kind = "infer_type" := by
    simp [enclosingKinds]
  rw [hkinds]
  constructor
  · intro h
    obtain ⟨q, _, hq, hkind⟩ := h
    rw [eq_of_mem_children hn hq]
    exact hkind
  · intro h
    exact ⟨p, hp, hn, h⟩

/-- The parent of a node decides whether the node is declared. -/
theorem isDeclared_of_mem_children (hp : root.Has p) (hn : n ∈ p.children) :
    n.IsDeclared root ↔ p.node.kind ∈ declarationKinds ∧ p.IsFirst .name n := by
  rw [← Node.declaresType_iff]
  constructor
  · intro h
    obtain ⟨q, _, hdeclares, hfirst⟩ := h
    rw [eq_of_mem_children hn hfirst.mem_children]
    exact ⟨hdeclares, hfirst⟩
  · intro h
    exact ⟨p, hp, h⟩

variable (hroot : root.SiblingsSeparate) (hfull : n.node.span.start < n.node.span.stop)
include hroot hfull

/-- A type name is used, unless it is the name of a declaration or part of a larger type. -/
theorem isTypeUse_iff (hn : root.Has n) (hname : n.node.IsTypeName) :
    n.isTypeUse = true ↔ ¬ n.IsDeclared root ∧ ¬ n.IsPartOfType root := by
  cases hn with
  | root =>
    -- The root is the child of no node.
    have horphan : ∀ p : Located, ⟨root, [], []⟩ ∉ p.children := by
      intro p hp
      cases parent?_of_mem_children hp
    have hdeclared : ¬ IsDeclared root ⟨root, [], []⟩ := by
      intro h
      obtain ⟨p, _, _, hfirst⟩ := h
      exact horphan p hfirst.mem_children
    have hpart : ¬ IsPartOfType root ⟨root, [], []⟩ := by
      intro h
      obtain ⟨p, _, hmem, _⟩ := h
      exact horphan p hmem
    have huse : isTypeUse ⟨root, [], []⟩ = true := by
      simp [isTypeUse, parent?]
    exact iff_of_true huse ⟨hdeclared, hpart⟩
  | child hp hc =>
    rw [isTypeUse_of_mem_children hc hname, isDeclared_of_mem_children hp hc,
      isPartOfType_of_mem_children hp hc, hroot.any_sameSpan_iff hp hc hfull]
    exact and_comm

/-- Under a declaration, a type name is passed over exactly if it is the declared name. -/
theorem isTypeUse_eq_false_iff (hp : root.Has p) (hn : n ∈ p.children)
    (hname : n.node.IsTypeName) (hdeclares : p.node.DeclaresType) :
    n.isTypeUse = false ↔ p.IsFirst .name n := by
  rw [Node.declaresType_iff] at hdeclares
  -- What declares a type is no larger type itself.
  have hkinds : ∀ kind ∈ declarationKinds, kind ∉ enclosingKinds := by decide
  have henclosing := hkinds _ hdeclares
  rw [← Bool.not_eq_true, isTypeUse_of_mem_children hn hname,
    hroot.any_sameSpan_iff hp hn hfull]
  constructor
  · intro h
    by_contra hfirst
    exact h ⟨henclosing, fun hboth => hfirst hboth.2⟩
  · intro hfirst h
    exact h.2 ⟨hdeclares, hfirst⟩

end

-- Names without a byte look alike. The second one is not declared, and is passed over all the same.
example :
    let declaration : Node := ⟨"type_alias_declaration", ⟨0, 5⟩, true, none,
      [⟨"type_identifier", ⟨5, 5⟩, true, some .name, []⟩,
       ⟨"type_identifier", ⟨5, 5⟩, true, none, []⟩]⟩
    ∀ n ∈ (⟨declaration, [], []⟩ : Located).children, n.isTypeUse = false := by
  decide

/-! ## Bare names among parameters -/

section
variable {root : Node} {n : Located}

/-- What the rule for parameters sees of the ancestors. -/
theorem isUnnamedParameter_eq_true_iff :
    n.isUnnamedParameter = true ↔ ∃ parameter parameters function rest,
      n.above = parameter :: parameters :: function :: rest ∧
      parameter.kind = "required_parameter" ∧ parameter.child? .type = none ∧
      (parameter.child? .pattern).any (fun c => c.sameSpan n.node) = true ∧
      parameters.kind = "formal_parameters" ∧ function.kind = "function_type" := by
  unfold isUnnamedParameter
  cases n.above with
  | nil => simp
  | cons parameter rest =>
    cases hpattern : parameter.child? .pattern with
    | none => simp [hpattern]
    | some pattern =>
      match rest with
      | [] => simp
      | [parameters] => simp
      | parameters :: function :: rest => simp [hpattern, and_assoc]

/-- A name with a byte of its own is taken for a bare one exactly if it is the pattern of a
    parameter without a type in a function type. -/
theorem isUnnamedParameter_iff (hroot : root.SiblingsSeparate) (hn : root.Has n)
    (hfull : n.node.span.start < n.node.span.stop) :
    n.isUnnamedParameter = true ↔ n.IsBareParameter root := by
  have htypes : ∀ parameter : Located, parameter.node.child? .type = none ↔
      ∀ c ∈ parameter.children, c.node.field ≠ some .type := by
    intro parameter
    rw [← node_child?, Option.map_eq_none_iff, child?, List.find?_eq_none]
    simp only [decide_eq_true_eq, ne_eq]
  rw [isUnnamedParameter_eq_true_iff]
  constructor
  · intro h
    obtain ⟨_, _, _, _, habove, hparameter, htype, hpattern, hparameters, hfunction⟩ := h
    -- Three steps upwards from the name.
    obtain ⟨parameter, hhas, hin, rfl, hlist⟩ := hn.exists_parent habove
    obtain ⟨parameters, hhasList, hinList, rfl, htop⟩ := hhas.exists_parent hlist
    obtain ⟨function, hhasFunction, hinFunction, rfl, _⟩ := hhasList.exists_parent htop
    exact ⟨function, parameters, parameter, hhasFunction, hfunction, hinFunction, hparameters,
      hinList, hparameter, (htypes parameter).mp htype,
      (hroot.any_sameSpan_iff hhas hin hfull .pattern).mp hpattern⟩
  · intro h
    obtain ⟨function, parameters, parameter, hhasFunction, hfunction, hinFunction, hparameters,
      hinList, hparameter, htype, hpattern⟩ := h
    have hhas : root.Has parameter := .child (.child hhasFunction hinFunction) hinList
    have hin := hpattern.mem_children
    have habove : n.above =
        parameter.node :: parameters.node :: function.node :: function.above := by
      obtain ⟨_, _, _, hn⟩ := mem_children_iff.mp hin
      obtain ⟨_, _, _, hparameter⟩ := mem_children_iff.mp hinList
      obtain ⟨_, _, _, hparameters⟩ := mem_children_iff.mp hinFunction
      rw [hn, hparameter, hparameters]
    exact ⟨_, _, _, _, habove, hparameter, (htypes parameter).mpr htype,
      (hroot.any_sameSpan_iff hhas hin hfull .pattern).mpr hpattern, hparameters, hfunction⟩

end

end Located

/-! ## References -/

/-- The last solid byte before an offset is followed by blanks only. -/
theorem Bytes.lastSolid?_eq_some_iff {bs : Bytes} {i : Nat} {b : UInt8}
    (hsolid : isBlank b = false) :
    bs.lastSolid? i = some b ↔
      ∃ front blanks, bs.take i = front ++ b :: blanks ∧ ∀ a ∈ blanks, isBlank a = true := by
  rw [lastSolid?_eq_finalSolid?, finalSolid?_eq_find?, List.find?_eq_some_iff_append]
  constructor
  · intro h
    obtain ⟨_, blanks, front, hsplit, hblank⟩ := h
    refine ⟨front.reverse, blanks.reverse, ?_, ?_⟩
    · rw [← List.reverse_reverse (bs.take i), hsplit]
      simp
    · simpa using hblank
  · intro h
    obtain ⟨front, blanks, hsplit, hblank⟩ := h
    refine ⟨by simpa using hsolid, blanks.reverse, front.reverse, ?_, ?_⟩
    · rw [hsplit]
      simp
    · simpa using hblank

namespace Document

/-- Whether a percent sign stands before an offset of the source, with nothing but blanks in
    between. -/
def FollowsPercent (d : Document) (i : Nat) : Prop :=
  ∃ front blanks, d.source.take i = front ++ byte '%' :: blanks ∧
    ∀ b ∈ blanks, Bytes.isBlank b = true

theorem followsPercent_iff {d : Document} {i : Nat} :
    d.FollowsPercent i ↔ d.source.lastSolid? i = some (byte '%') :=
  (Bytes.lastSolid?_eq_some_iff (by decide)).symm

instance (d : Document) (i : Nat) : Decidable (d.FollowsPercent i) :=
  decidable_of_iff _ followsPercent_iff.symm

/-- The type references of a document without object type spreads, by where they stand. -/
inductive Refers (d : Document) (n : Located) : Prop where
  /-- An applied type. -/
  | applied (kind : n.node.kind = "generic_type")
      (visible : ¬ d.FollowsPercent n.node.span.start)
  /-- A type name that is neither declared nor part of a larger type. -/
  | named (kind : n.node.IsTypeName)
      (undeclared : ¬ n.IsDeclared d.root) (whole : ¬ n.IsPartOfType d.root)
      (visible : ¬ d.FollowsPercent n.node.span.start)
  /-- A bare name among the parameters of a function type. -/
  | bare (kind : n.node.kind = "identifier") (parameter : n.IsBareParameter d.root)

section
variable {d : Document} {n : Located}

/-- What is left of the rule for references where there are no spreads. -/
theorem isReference_of_no_spread (hspread : d.spreadNames = []) :
    d.isReference n = true ↔
      n.node.kind = "identifier" ∧ n.isUnnamedParameter = true ∨
      n.node.kind ∈ referenceKinds ∧ ¬ d.FollowsPercent n.node.span.start ∧
        n.isTypeUse = true := by
  have hplain : d.isSpreadName n.node = false := by simp [isSpreadName, hspread]
  rw [followsPercent_iff]
  unfold isReference
  rw [hplain]
  -- An identifier is judged by its parameter alone, and no other rule looks at one.
  by_cases hidentifier : n.node.kind = "identifier"
  · simp [hidentifier, referenceKinds]
  · by_cases hkind : n.node.kind ∈ referenceKinds
    · by_cases hpercent : d.source.lastSolid? n.node.span.start = some (byte '%')
      · simp [hidentifier, hkind, hpercent]
      · simp [hidentifier, hkind, hpercent]
    · simp [hidentifier, hkind]

/-- Without object type spreads the rule for references finds the nodes that stand as `Refers`
    says. -/
theorem isReference_iff (hroot : d.root.SiblingsSeparate) (hspread : d.spreadNames = [])
    (hn : d.root.Has n) (hfull : n.node.span.start < n.node.span.stop) :
    d.isReference n = true ↔ d.Refers n := by
  rw [isReference_of_no_spread hspread, Located.isUnnamedParameter_iff hroot hn hfull]
  constructor
  · intro h
    rcases h with ⟨hkind, hbare⟩ | ⟨hkind, hvisible, huse⟩
    · exact .bare hkind hbare
    · by_cases hgeneric : n.node.kind = "generic_type"
      · exact .applied hgeneric hvisible
      · have hname : n.node.IsTypeName := Node.isTypeName_iff.mpr ⟨hkind, hgeneric⟩
        obtain ⟨hundeclared, hwhole⟩ := (Located.isTypeUse_iff hroot hfull hn hname).mp huse
        exact .named hname hundeclared hwhole hvisible
  · intro h
    cases h with
    | applied hkind hvisible =>
      refine .inr ⟨by simp [referenceKinds, hkind], hvisible, ?_⟩
      simp [Located.isTypeUse, hkind]
    | named hname hundeclared hwhole hvisible =>
      have huse := (Located.isTypeUse_iff hroot hfull hn hname).mpr ⟨hundeclared, hwhole⟩
      exact .inr ⟨(Node.isTypeName_iff.mp hname).1, hvisible, huse⟩
    | bare hkind hbare => exact .inl ⟨hkind, hbare⟩

theorem mem_references_iff (hroot : d.root.SiblingsSeparate) (hspread : d.spreadNames = [])
    (hfull : n.node.span.start < n.node.span.stop) :
    n ∈ d.references ↔ d.root.Has n ∧ d.Refers n := by
  rw [references, List.mem_filter, Node.mem_walk_iff]
  exact and_congr_right fun hn => isReference_iff hroot hspread hn hfull

end

/-- If the tree of the masked source has no object type spread, then it is the tree of the document,
    and no name follows a spread. -/
theorem ofSource_of_no_spread {parser : Parser} {dialect : Dialect} {source : String}
    (hnone : ∀ n, ¬ Source.SpreadsObject
      (parser dialect.grammar (Source.mask (Utf8.ofString source))) n) :
    (ofSource parser dialect source).root =
        parser dialect.grammar (Source.mask (Utf8.ofString source)) ∧
      (ofSource parser dialect source).spreadNames = [] := by
  have hspreads : Source.typeSpreads
      (parser dialect.grammar (Source.mask (Utf8.ofString source))) = [] := by
    rw [List.eq_nil_iff_forall_not_mem]
    intro s hs
    obtain ⟨n, hn, _⟩ := Source.mem_typeSpreads.mp hs
    exact hnone n hn
  have hparse : Source.parse parser dialect.grammar (Utf8.ofString source) =
      ⟨[Source.mask (Utf8.ofString source)],
        parser dialect.grammar (Source.mask (Utf8.ofString source)), []⟩ := by
    unfold Source.parse
    simp only [hspreads]
  show (Source.parse parser dialect.grammar (Utf8.ofString source)).root = _ ∧
    (Source.parse parser dialect.grammar (Utf8.ofString source)).spreadNames = []
  rw [hparse]
  exact ⟨rfl, rfl⟩

/-- **Comparing spans finds the node itself.** Let siblings share no byte, and take nodes that have
    a byte. Under a declaration a type name is passed over exactly if it is the first child in the
    role of a name. An identifier is taken for a bare parameter exactly if it is the first child in
    the role of a pattern, of a parameter that has no type and stands directly in the parameters of
    a function type. So in a document without object type spreads the references are the nodes that
    stand as `Refers` says: applied types, type names that are neither declared nor part of a larger
    type, both without those behind a percent sign, and bare parameters. This goes for every source
    where the tree of the masked text has no object type spread, with that tree. -/
theorem references_by_identity (root : Node) (hroot : root.SiblingsSeparate) :
    (∀ p n, root.Has p → n ∈ p.children → p.node.DeclaresType → n.node.IsTypeName →
      n.node.span.start < n.node.span.stop →
      (n.isTypeUse = false ↔ p.IsFirst .name n)) ∧
    (∀ n, root.Has n → n.node.kind = "identifier" → n.node.span.start < n.node.span.stop →
      (n.isUnnamedParameter = true ↔ n.IsBareParameter root)) ∧
    (∀ d : Document, d.root = root → d.spreadNames = [] →
      ∀ n, n.node.span.start < n.node.span.stop →
        (n ∈ d.references ↔ root.Has n ∧ d.Refers n)) ∧
    ∀ (parser : Parser) (dialect : Dialect) (source : String),
      parser dialect.grammar (Source.mask (Utf8.ofString source)) = root →
      (∀ n, ¬ Source.SpreadsObject root n) →
      let d := ofSource parser dialect source
      d.root = root ∧ ∀ n, n.node.span.start < n.node.span.stop →
        (n ∈ d.references ↔ root.Has n ∧ d.Refers n) := by
  refine ⟨?_, ?_, ?_, ?_⟩
  · intro p n hp hn hdeclares hname hfull
    exact Located.isTypeUse_eq_false_iff hroot hfull hp hn hname hdeclares
  · intro n hn _ hfull
    exact Located.isUnnamedParameter_iff hroot hn hfull
  · intro d hd hspread n hfull
    subst hd
    exact mem_references_iff hroot hspread hfull
  · intro parser dialect source hparse hnone d
    subst hparse
    obtain ⟨hd, hspread⟩ := ofSource_of_no_spread hnone
    refine ⟨hd, ?_⟩
    intro n hfull
    rw [← hd] at hroot ⊢
    exact mem_references_iff hroot hspread hfull

end Document

/-! ## Two aliases -/

namespace Sample

/-- A source with two declared names, a name that is used, a bare parameter, a parameter with a
    type, and a name behind a percent sign. -/
def aliasesSource : String := "type G=F;type F=(P,q:Q<G>)=>% C;"

/-- The first alias, with the names at 5 and 7. -/
def nameAlias : Node :=
  ⟨"type_alias_declaration", ⟨0, 9⟩, true, none,
    [⟨"type", ⟨0, 4⟩, false, none, []⟩, ⟨"type_identifier", ⟨5, 6⟩, true, some .name, []⟩,
     ⟨"=", ⟨6, 7⟩, false, none, []⟩, ⟨"type_identifier", ⟨7, 8⟩, true, none, []⟩,
     ⟨";", ⟨8, 9⟩, false, none, []⟩]⟩

/-- The parameter that is only a name. -/
def unnamedParameter : Node :=
  ⟨"required_parameter", ⟨17, 18⟩, true, none,
    [⟨"identifier", ⟨17, 18⟩, true, some .pattern, []⟩]⟩

/-- The parameter with a type. -/
def typedParameter : Node :=
  ⟨"required_parameter", ⟨19, 25⟩, true, none,
    [⟨"identifier", ⟨19, 20⟩, true, some .pattern, []⟩,
     ⟨"type_annotation", ⟨20, 25⟩, true, some .type,
      [⟨":", ⟨20, 21⟩, false, none, []⟩,
       ⟨"generic_type", ⟨21, 25⟩, true, none,
        [⟨"type_identifier", ⟨21, 22⟩, true, some .name, []⟩,
         ⟨"type_arguments", ⟨22, 25⟩, true, some .typeArguments,
          [⟨"<", ⟨22, 23⟩, false, none, []⟩, ⟨"type_identifier", ⟨23, 24⟩, true, none, []⟩,
           ⟨">", ⟨24, 25⟩, false, none, []⟩]⟩]⟩]⟩]⟩

/-- The parameters of the function type. -/
def parameterList : Node :=
  ⟨"formal_parameters", ⟨16, 26⟩, true, none,
    [⟨"(", ⟨16, 17⟩, false, none, []⟩, unnamedParameter, ⟨",", ⟨18, 19⟩, false, none, []⟩,
     typedParameter, ⟨")", ⟨25, 26⟩, false, none, []⟩]⟩

/-- The function type, with an error for the percent sign. -/
def functionType : Node :=
  ⟨"function_type", ⟨16, 31⟩, true, none,
    [parameterList, ⟨"=>", ⟨26, 28⟩, false, none, []⟩,
     ⟨"ERROR", ⟨28, 29⟩, true, none, [⟨"%", ⟨28, 29⟩, false, none, []⟩]⟩,
     ⟨"type_identifier", ⟨30, 31⟩, true, none, []⟩]⟩

/-- The second alias. -/
def functionAlias : Node :=
  ⟨"type_alias_declaration", ⟨9, 32⟩, true, none,
    [⟨"type", ⟨9, 13⟩, false, none, []⟩, ⟨"type_identifier", ⟨14, 15⟩, true, some .name, []⟩,
     ⟨"=", ⟨15, 16⟩, false, none, []⟩, functionType, ⟨";", ⟨31, 32⟩, false, none, []⟩]⟩

/-- The tree of the two aliases. -/
def aliases : Node :=
  ⟨"program", ⟨0, 32⟩, true, none, [nameAlias, functionAlias]⟩

end Sample

/-- Of two names in an alias the declared one is passed over and the other one is a reference. So is
    the bare parameter, but not the name behind the percent sign. -/
theorem Document.references_by_identity_aliases :
    let d := Document.ofSource (fun _ _ => Sample.aliases) ⟨.tsx, "any"⟩ Sample.aliasesSource
    let declared : Located := ⟨⟨"type_identifier", ⟨5, 6⟩, true, some .name, []⟩,
      [Sample.nameAlias, Sample.aliases], [1, 0]⟩
    let used : Located := ⟨⟨"type_identifier", ⟨7, 8⟩, true, none, []⟩,
      [Sample.nameAlias, Sample.aliases], [3, 0]⟩
    let bare : Located := ⟨⟨"identifier", ⟨17, 18⟩, true, some .pattern, []⟩,
      [Sample.unnamedParameter, Sample.parameterList, Sample.functionType, Sample.functionAlias,
       Sample.aliases], [0, 1, 0, 3, 1]⟩
    let predicate : Located := ⟨⟨"type_identifier", ⟨30, 31⟩, true, none, []⟩,
      [Sample.functionType, Sample.functionAlias, Sample.aliases], [3, 3, 1]⟩
    Sample.aliases.SiblingsSeparate ∧ (∀ n, ¬ Source.SpreadsObject Sample.aliases n) ∧
    declared.isTypeUse = false ∧ used ∈ d.references ∧
    bare.isUnnamedParameter = true ∧ bare ∈ d.references ∧ predicate ∉ d.references := by
  intro d declared used bare predicate
  have hseparate : Sample.aliases.SiblingsSeparate := by decide +kernel
  have hnone : ∀ n, ¬ Source.SpreadsObject Sample.aliases n := by
    have hkinds : ∀ n, Sample.aliases.Has n → n.node.kind ≠ "..." := by decide +kernel
    intro n hn
    exact hkinds n hn.has hn.kind
  -- The steps down to the names.
  let first : Located := ⟨Sample.nameAlias, [Sample.aliases], [0]⟩
  let function : Located := ⟨Sample.functionType, [Sample.functionAlias, Sample.aliases], [3, 1]⟩
  let parameters : Located := ⟨Sample.parameterList, function.node :: function.above, [0, 3, 1]⟩
  let parameter : Located :=
    ⟨Sample.unnamedParameter, parameters.node :: parameters.above, [1, 0, 3, 1]⟩
  have hfirst : Sample.aliases.Has first :=
    .child .root (Located.mem_children_iff.mpr ⟨0, _, rfl, rfl⟩)
  have hused : used ∈ first.children := Located.mem_children_iff.mpr ⟨3, _, rfl, rfl⟩
  have hfunction : Sample.aliases.Has function :=
    .child (.child .root (Located.mem_children_iff.mpr ⟨1, _, rfl, rfl⟩))
      (Located.mem_children_iff.mpr ⟨3, _, rfl, rfl⟩)
  have hparameters : parameters ∈ function.children :=
    Located.mem_children_iff.mpr ⟨0, _, rfl, rfl⟩
  have hparameter : parameter ∈ parameters.children :=
    Located.mem_children_iff.mpr ⟨1, _, rfl, rfl⟩
  have hpattern : parameter.IsFirst .pattern bare := ⟨rfl, [], [], rfl, by decide⟩
  have hhas : Sample.aliases.Has bare :=
    .child (.child (.child hfunction hparameters) hparameter) hpattern.mem_children
  have hstands : bare.IsBareParameter Sample.aliases :=
    ⟨function, parameters, parameter, hfunction, rfl, hparameters, rfl, hparameter, rfl,
      by decide, hpattern⟩
  obtain ⟨hdeclared, hbare, _, hsource⟩ := references_by_identity Sample.aliases hseparate
  obtain ⟨hroot, hreferences⟩ :=
    hsource (fun _ _ => Sample.aliases) ⟨.tsx, "any"⟩ Sample.aliasesSource rfl hnone
  refine ⟨hseparate, hnone, ?_, ?_, ?_, ?_, ?_⟩
  · have hname : first.IsFirst .name declared := ⟨rfl, [_], [_, _, _], rfl, by decide⟩
    have hdeclares : first.node.DeclaresType := Node.declaresType_iff.mpr (by decide)
    exact (hdeclared first declared hfirst hname.mem_children hdeclares (.inl rfl)
      (by decide)).mpr hname
  · refine (hreferences used (by decide)).mpr ⟨.child hfirst hused, .named (.inl rfl) ?_ ?_ ?_⟩
    · intro h
      obtain ⟨p, _, _, hfield, _⟩ := h
      cases hfield
    · intro h
      rw [hroot, Located.isPartOfType_of_mem_children hfirst hused] at h
      exact absurd h (by decide)
    · decide +kernel
  · exact (hbare bare hhas rfl (by decide)).mpr hstands
  · refine (hreferences bare (by decide)).mpr ⟨hhas, .bare rfl ?_⟩
    rw [hroot]
    exact hstands
  · intro h
    cases ((hreferences predicate (by decide)).mp h).2 with
    | applied hkind _ => exact absurd hkind (by decide)
    | named _ _ _ hvisible => exact hvisible (by decide +kernel)
    | bare hkind _ => exact absurd hkind (by decide)

end ArityFill
