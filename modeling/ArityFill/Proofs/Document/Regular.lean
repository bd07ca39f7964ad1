import ArityFill.Document.Reference
import ArityFill.Proofs.Tree.Below

/-! # References that do not contain each other

    A reference that has no arguments yet should not contain another one, or else two replacements
    would be asked for that overlap. No rule of the library looks after that by itself. It follows
    from how the grammar builds names (`Document.Regular`), and then for each sort of reference for
    a reason of its own:

    - a plain name has no children,
    - what stands below a nested name is a part of it, and belongs to another nested name,
    - what stands below an applied type without arguments is its name, which is plain or nested.

    `Regular.not_isReference_below` puts the three together.
-/

namespace ArityFill

/-- Whether a node is an applied type without arguments. Punctuation does not count as an
    argument. -/
def Node.IsBare (n : Node) : Prop :=
  n.kind = "generic_type" ∧
    ∀ args ∈ n.child? .typeArguments, ∀ a ∈ args.children, a.named = false

instance (n : Node) : Decidable n.IsBare :=
  inferInstanceAs (Decidable (_ ∧ _))

/-! ## Trees as the grammar builds them -/

/-- How the grammar builds names. -/
structure Node.RegularNames (root : Node) : Prop where
  /-- Plain names have no children. -/
  plain : ∀ n, root.Has n → n.node.kind ∈ plainNames → n.node.children = []
  /-- Below a nested name stands no applied type and no parameter, and a type name that stands there
      belongs to a nested name. -/
  qualified : ∀ n, root.Has n → n.node.kind = "nested_type_identifier" → ∀ m, n.Below m →
    m.node.kind ≠ "generic_type" ∧ m.node.kind ≠ "required_parameter" ∧
    (m.node.kind = "type_identifier" ∨ m.node.kind = "nested_type_identifier" →
      ∃ p ∈ m.parent?, p.kind = "nested_type_identifier")

instance (root : Node) : Decidable root.RegularNames :=
  decidable_of_iff (_ ∧ _) ⟨fun ⟨h, h'⟩ => ⟨h, h'⟩, fun ⟨h, h'⟩ => ⟨h, h'⟩⟩

/-- How the grammar builds applied types that have no arguments. -/
structure Node.RegularBare (root : Node) : Prop where
  /-- Their name is plain or nested. -/
  bareName : ∀ n, root.Has n → n.node.IsBare → ∀ name ∈ n.node.child? .name,
    name.kind ∈ plainNames ∨ name.kind = "nested_type_identifier"
  /-- Outside of their name they hold no type and no parameter. -/
  bareRest : ∀ n, root.Has n → n.node.IsBare → ∀ m, n.Below m →
    (∀ name ∈ n.child? .name, ¬ name.InSubtree m) →
    m.node.kind ∉
      ["generic_type", "type_identifier", "nested_type_identifier", "required_parameter"]

instance (root : Node) : Decidable root.RegularBare :=
  decidable_of_iff (_ ∧ _) ⟨fun ⟨h, h'⟩ => ⟨h, h'⟩, fun ⟨h, h'⟩ => ⟨h, h'⟩⟩

namespace Document

/-- What the grammar is relied on for, so that no reference contains another one. -/
structure Regular (d : Document) : Prop
    extends d.root.Nested, d.root.RegularNames, d.root.RegularBare where
  /-- No name below an applied type without arguments, or below a nested name, followed an object
      type spread. -/
  spread : ∀ n, d.root.Has n → n.node.IsBare ∨ n.node.kind = "nested_type_identifier" →
    ∀ m, n.Below m → m.node.kind ∈ plainNames → m.node.children = [] →
      m.node.span.start ∉ d.spreadNames

instance (d : Document) : Decidable d.Regular :=
  decidable_of_iff (d.root.Nested ∧ d.root.RegularNames ∧ d.root.RegularBare ∧ _)
    ⟨fun ⟨h₁, h₂, h₃, h₄⟩ => ⟨h₁, h₂, h₃, h₄⟩,
      fun ⟨h₁, h₂, h₃, h₄⟩ => ⟨h₁, h₂, h₃, h₄⟩⟩

/-! ## What a reference looks like -/

section
variable {d : Document} {n m : Located}

/-- The three sorts of references: a name behind a spread, a bare name among parameters, and a type
    that is used. -/
theorem isReference_cases (h : d.isReference m = true) :
    (m.node.kind ∈ plainNames ∧ m.node.children = [] ∧ m.node.span.start ∈ d.spreadNames) ∨
    (m.node.kind = "identifier" ∧ ∃ p, m.parent? = some p ∧ p.kind = "required_parameter") ∨
    (m.node.kind ∈ referenceKinds ∧ m.isTypeUse = true) := by
  unfold isReference at h
  split at h
  · next hspread =>
    simp only [isSpreadName, Bool.and_eq_true, List.contains_iff_mem, List.isEmpty_iff] at hspread
    exact .inl ⟨hspread.1.2, hspread.2, hspread.1.1⟩
  · split at h
    · next hkind =>
      refine .inr (.inl ⟨hkind, ?_⟩)
      unfold Located.isUnnamedParameter at h
      unfold Located.parent?
      cases habove : m.above with
      | nil =>
        rw [habove] at h
        cases h
      | cons p rest =>
        rw [habove] at h
        simp only [Bool.and_eq_true, decide_eq_true_eq] at h
        exact ⟨p, rfl, h.1.1.1⟩
    · split at h
      · cases h
      · next hkinds =>
        split at h
        · cases h
        · exact .inr (.inr ⟨by simpa using hkinds, h⟩)

/-- A type name that is used is no part of a larger name. -/
theorem not_enclosed_of_isTypeUse (huse : m.isTypeUse = true) (hkind : m.node.kind ≠ "generic_type")
    {p : Node} (hp : m.parent? = some p) : p.kind ∉ enclosingKinds := by
  intro hmem
  have henclosed : enclosingKinds.contains p.kind = true := List.contains_iff_mem.mpr hmem
  unfold Located.isTypeUse at huse
  rw [if_neg hkind, hp] at huse
  dsimp only at huse
  rw [if_pos henclosed] at huse
  cases huse

/-- An open reference is a plain name, a nested name, or an applied type without arguments. -/
theorem kind_of_isReference (h : d.isReference n = true) (hargs : d.hasArguments n.node = false) :
    n.node.kind ∈ plainNames ∨ n.node.kind = "nested_type_identifier" ∨ n.node.IsBare := by
  rcases isReference_cases h with ⟨hplain, -⟩ | ⟨hkind, -⟩ | ⟨hkind, -⟩
  · exact .inl hplain
  · rw [hkind]
    exact .inl (by decide)
  · simp only [referenceKinds, List.mem_cons, List.not_mem_nil, or_false] at hkind
    rcases hkind with hkind | hkind | hkind
    · refine .inr (.inr ⟨hkind, fun args hchild => ?_⟩)
      rw [hasArguments, if_pos hkind, hchild] at hargs
      simpa using hargs
    · rw [hkind]
      exact .inl (by decide)
    · exact .inr (.inl hkind)

/-! ## Below a reference -/

variable (hd : d.Regular) (hn : d.root.Has n)
include hd hn

/-- Below a plain name there is nothing. -/
theorem Regular.not_below_plain (hplain : n.node.kind ∈ plainNames) : ¬ n.Below m := by
  intro h
  obtain ⟨c, hc, -⟩ := Located.below_iff_exists_child.mp h
  obtain ⟨k, x, hx, -⟩ := Located.mem_children_iff.mp hc
  rw [hd.plain n hn hplain] at hx
  cases hx

/-- Below a nested name there is no reference. -/
theorem Regular.not_isReference_below_nested (hkind : n.node.kind = "nested_type_identifier")
    (h : n.Below m) : d.isReference m = false := by
  obtain ⟨hgeneric, _, hpart⟩ := hd.qualified n hn hkind m h
  rw [Bool.eq_false_iff]
  intro href
  rcases isReference_cases href with ⟨hplain, hleaf, hspread⟩ | ⟨_, q, hq, hqkind⟩ | ⟨hkinds, huse⟩
  · exact hd.spread n hn (.inr hkind) m h hplain hleaf hspread
  · -- The parameter would be the nested name itself, or stand below it.
    obtain ⟨p, hp, hmp⟩ := h.exists_parent
    rw [Located.parent?_of_mem_children hmp, Option.some.injEq] at hq
    subst hq
    rcases hp with rfl | hp
    · rw [hkind] at hqkind
      exact absurd hqkind (by decide)
    · exact (hd.qualified n hn hkind p hp).2.1 hqkind
  · -- A type name belongs to a nested name there, so it is not used by itself.
    have hname : m.node.kind = "type_identifier" ∨ m.node.kind = "nested_type_identifier" := by
      simpa [referenceKinds, hgeneric] using hkinds
    obtain ⟨p, hp, hpkind⟩ := hpart hname
    refine not_enclosed_of_isTypeUse huse hgeneric hp ?_
    rw [hpkind]
    decide

/-- The name of an applied type without arguments is no reference, and there is none below it. -/
theorem Regular.not_isReference_in_name (hbare : n.node.IsBare) {name : Located}
    (hname : n.child? .name = some name) (h : m = name ∨ name.Below m) :
    d.isReference m = false := by
  have hchild := Located.mem_children_of_child? hname
  have hparent := Located.parent?_of_mem_children hchild
  have hkind : name.node.kind ∈ plainNames ∨ name.node.kind = "nested_type_identifier" := by
    refine hd.bareName n hn hbare name.node ?_
    rw [← Located.node_child?, hname]
    rfl
  rcases h with rfl | h
  · rw [Bool.eq_false_iff]
    intro href
    rcases isReference_cases href with ⟨hplain, hleaf, hspread⟩ | ⟨_, q, hq, hqkind⟩ | ⟨_, huse⟩
    · exact hd.spread n hn (.inl hbare) m (.child hchild) hplain hleaf hspread
    · rw [hparent, Option.some.injEq] at hq
      rw [← hq, hbare.1] at hqkind
      exact absurd hqkind (by decide)
    · -- It stands directly below the applied type.
      have hgeneric : m.node.kind ≠ "generic_type" := by
        intro hgeneric
        rw [hgeneric] at hkind
        exact absurd hkind (by decide)
      refine not_enclosed_of_isTypeUse huse hgeneric hparent ?_
      rw [hbare.1]
      decide
  · rcases hkind with hplain | hnested
    · exact absurd h (hd.not_below_plain (.child hn hchild) hplain)
    · exact hd.not_isReference_below_nested (.child hn hchild) hnested h

/-- Below an applied type without arguments there is no reference. -/
theorem Regular.not_isReference_below_bare (hbare : n.node.IsBare) (h : n.Below m) :
    d.isReference m = false := by
  by_cases hin : ∃ name, n.child? .name = some name ∧ name.InSubtree m
  · obtain ⟨name, hname, hin⟩ := hin
    exact hd.not_isReference_in_name hn hbare hname
      (h.below_of_inSubtree (Located.mem_children_of_child? hname) hin)
  · have hout : ∀ name, n.child? .name = some name → ¬ name.InSubtree m :=
      fun name hname hsub => hin ⟨name, hname, hsub⟩
    have hrest := hd.bareRest n hn hbare m h hout
    rw [Bool.eq_false_iff]
    intro href
    rcases isReference_cases href with ⟨hplain, hleaf, hspread⟩ | ⟨_, q, hq, hqkind⟩ | ⟨hkinds, -⟩
    · exact hd.spread n hn (.inl hbare) m h hplain hleaf hspread
    · obtain ⟨p, hp, hmp⟩ := h.exists_parent
      rw [Located.parent?_of_mem_children hmp, Option.some.injEq] at hq
      subst hq
      rcases hp with rfl | hp
      · rw [hbare.1] at hqkind
        exact absurd hqkind (by decide)
      · -- If the parameter were in the name, so would be what stands in it.
        have hpout : ∀ name, n.child? .name = some name → ¬ name.InSubtree p :=
          fun name hname hsub => hout name hname (hsub.trans (Located.Below.child hmp).inSubtree)
        refine hd.bareRest n hn hbare p hp hpout ?_
        rw [hqkind]
        decide
    · simp only [referenceKinds, List.mem_cons, List.not_mem_nil, or_false] at hkinds hrest
      rcases hkinds with hkinds | hkinds | hkinds <;> simp [hkinds] at hrest

/-- Below a reference without arguments there is no reference. -/
theorem Regular.not_isReference_below (href : d.isReference n = true)
    (hargs : d.hasArguments n.node = false) (h : n.Below m) : d.isReference m = false := by
  rcases kind_of_isReference href hargs with hplain | hnested | hbare
  · exact absurd h (hd.not_below_plain hn hplain)
  · exact hd.not_isReference_below_nested hn hnested h
  · exact hd.not_isReference_below_bare hn hbare h

end

end Document

end ArityFill
