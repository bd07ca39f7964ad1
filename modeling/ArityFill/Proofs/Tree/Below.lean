import ArityFill.Proofs.Tree.Walk

/-! # What lies below a node

    A node lies below another one if it can be reached from there by stepping to children. Two nodes
    of a tree either lie one below the other, or in the trees of two different children of a common
    ancestor. If the spans of a tree are nested (`Nested`), then in the second case the one that is
    met first ends before the other one begins: `walk_pairwise`.
-/

namespace ArityFill

namespace Located

/-! ## Children -/

theorem mem_childrenFrom_iff {n c : Located} {i : Nat} {cs : List Node} :
    c ∈ n.childrenFrom i cs ↔
      ∃ k x, cs[k]? = some x ∧ c = ⟨x, n.node :: n.above, (i + k) :: n.trail⟩ := by
  induction cs generalizing i with
  | nil => simp [childrenFrom]
  | cons d cs ih =>
    rw [childrenFrom, List.mem_cons, ih]
    constructor
    · rintro (rfl | ⟨k, x, hx, rfl⟩)
      · exact ⟨0, d, rfl, rfl⟩
      · refine ⟨k + 1, x, hx, ?_⟩
        rw [Nat.add_assoc, Nat.add_comm 1 k]
    · rintro ⟨k, x, hx, rfl⟩
      cases k with
      | zero =>
        cases hx
        exact .inl rfl
      | succ k =>
        refine .inr ⟨k, x, hx, ?_⟩
        rw [Nat.add_assoc, Nat.add_comm 1 k]

/-- The children of a node, with the ways to them. -/
theorem mem_children_iff {n c : Located} :
    c ∈ n.children ↔
      ∃ k x, n.node.children[k]? = some x ∧ c = ⟨x, n.node :: n.above, k :: n.trail⟩ := by
  rw [children, mem_childrenFrom_iff]
  simp only [Nat.zero_add]

theorem map_node_children (n : Located) : n.children.map Located.node = n.node.children := by
  have hfrom : ∀ i cs, (n.childrenFrom i cs).map Located.node = cs := by
    intro i cs
    induction cs generalizing i with
    | nil => rfl
    | cons c cs ih => rw [childrenFrom, List.map_cons, ih]
  exact hfrom 0 n.node.children

theorem parent?_of_mem_children {n c : Located} (h : c ∈ n.children) :
    c.parent? = some n.node := by
  obtain ⟨k, x, _, rfl⟩ := mem_children_iff.mp h
  rfl

/-- The first child in a role, with the way to it. -/
def child? (n : Located) (field : Field) : Option Located :=
  n.children.find? fun c => c.node.field = some field

theorem node_child? (n : Located) (field : Field) :
    (n.child? field).map Located.node = n.node.child? field := by
  rw [Node.child?, ← map_node_children, List.find?_map]
  rfl

theorem mem_children_of_child? {n c : Located} {field : Field} (h : n.child? field = some c) :
    c ∈ n.children :=
  List.mem_of_find?_eq_some h

/-! ## Stepping down -/

/-- What lies below a node: its children, and the children of what lies below it. -/
inductive Below (n : Located) : Located → Prop where
  /-- A child of the node. -/
  | child {c : Located} : c ∈ n.children → Below n c
  /-- A child of something below it. -/
  | step {m c : Located} : Below n m → c ∈ m.children → Below n c

theorem Below.trans {n m l : Located} (hm : n.Below m) (hl : m.Below l) : n.Below l := by
  induction hl with
  | child hc => exact .step hm hc
  | step _ hc ih => exact .step ih hc

/-- What lies below a node is one of its children or lies below one. -/
theorem below_iff_exists_child {n m : Located} :
    n.Below m ↔ ∃ c ∈ n.children, m = c ∨ c.Below m := by
  constructor
  · intro h
    induction h with
    | child hc => exact ⟨_, hc, .inl rfl⟩
    | step _ hc ih =>
      obtain ⟨c, hmem, rfl | hbelow⟩ := ih
      · exact ⟨_, hmem, .inr (.child hc)⟩
      · exact ⟨c, hmem, .inr (.step hbelow hc)⟩
  · rintro ⟨c, hmem, rfl | hbelow⟩
    · exact .child hmem
    · exact Below.trans (.child hmem) hbelow

/-- What lies below a node has its parent there, or has the node itself as its parent. -/
theorem Below.exists_parent {n m : Located} (h : n.Below m) :
    ∃ p, (p = n ∨ n.Below p) ∧ m ∈ p.children := by
  cases h with
  | child hc => exact ⟨n, .inl rfl, hc⟩
  | step hm hc => exact ⟨_, .inr hm, hc⟩

theorem Below.has {root : Node} {n m : Located} (hn : root.Has n) (h : n.Below m) :
    root.Has m := by
  induction h with
  | child hc => exact .child hn hc
  | step _ hc ih => exact .child ih hc

/-- A walk visits what is on its stack, what lies below that, and nothing else. -/
theorem mem_visit_iff {stack : List Located} {m : Located} :
    m ∈ visit stack ↔ ∃ n ∈ stack, m = n ∨ n.Below m := by
  constructor
  · intro h
    fun_induction visit stack with
    | case1 => cases h
    | case2 n stack ih =>
      rcases List.mem_cons.mp h with rfl | h
      · exact ⟨m, List.mem_cons_self, .inl rfl⟩
      · obtain ⟨l, hl, hm⟩ := ih h
        rcases List.mem_append.mp hl with hl | hl
        · exact ⟨n, List.mem_cons_self, .inr (below_iff_exists_child.mpr ⟨l, hl, hm⟩)⟩
        · exact ⟨l, List.mem_cons_of_mem _ hl, hm⟩
  · rintro ⟨n, hn, rfl | hbelow⟩
    · exact mem_visit_of_mem hn
    · induction hbelow with
      | child hc => exact mem_visit_of_mem_children (mem_visit_of_mem hn) hc
      | step _ hc ih => exact mem_visit_of_mem_children ih hc

theorem mem_visit_children_iff {n m : Located} : m ∈ visit n.children ↔ n.Below m := by
  rw [mem_visit_iff, below_iff_exists_child]

/-- What holds below a node can be decided by a walk. -/
instance (n : Located) (P : Located → Prop) [DecidablePred P] :
    Decidable (∀ m, n.Below m → P m) :=
  decidable_of_iff (∀ m ∈ visit n.children, P m) (by simp only [mem_visit_children_iff])

/-! ## Subtrees by the ways into them -/

/-- Whether the way to a node leads through another one, or ends there. -/
def InSubtree (top m : Located) : Prop :=
  top.trail <:+ m.trail

instance (top m : Located) : Decidable (top.InSubtree m) :=
  inferInstanceAs (Decidable (_ <:+ _))

theorem Below.inSubtree {n m : Located} (h : n.Below m) : n.InSubtree m := by
  induction h with
  | child hc =>
    obtain ⟨k, x, _, rfl⟩ := mem_children_iff.mp hc
    exact List.suffix_cons _ _
  | step _ hc ih =>
    obtain ⟨k, x, _, rfl⟩ := mem_children_iff.mp hc
    exact ih.trans (List.suffix_cons _ _)

/-- If the way to a node below another one leads through a child of that one, then the node is this
    child or lies below it. -/
theorem Below.below_of_inSubtree {n m c : Located} (h : n.Below m) (hc : c ∈ n.children)
    (hin : c.InSubtree m) : m = c ∨ c.Below m := by
  obtain ⟨c', hc', hm⟩ := below_iff_exists_child.mp h
  have hin' : c'.InSubtree m := by
    rcases hm with rfl | hm
    · exact List.suffix_refl _
    · exact hm.inSubtree
  -- Both children are on the way at the same height, so they are one.
  have hsame : c' = c := by
    obtain ⟨k, x, hx, rfl⟩ := mem_children_iff.mp hc
    obtain ⟨k', x', hx', rfl⟩ := mem_children_iff.mp hc'
    have htrail : k' :: n.trail = k :: n.trail :=
      (List.suffix_of_suffix_length_le hin' hin (Nat.le_refl _)).eq_of_length rfl
    obtain ⟨rfl, -⟩ := List.cons.inj htrail
    rw [hx, Option.some.injEq] at hx'
    rw [hx']
  exact hsame ▸ hm

end Located

/-! ## Nested spans -/

namespace Node

/-- What holds of the nodes of a tree can be decided by a walk. -/
instance (root : Node) (P : Located → Prop) [DecidablePred P] :
    Decidable (∀ n, root.Has n → P n) :=
  decidable_of_iff (∀ n ∈ root.walk, P n) (by simp only [mem_walk_iff])

/-- The spans of a tree are nested: every child covers bytes that its parent covers, and of two
    children the left one ends before the right one begins. -/
structure Nested (root : Node) : Prop where
  /-- Children are inside their parent. -/
  inside : ∀ n, root.Has n → ∀ c ∈ n.node.children,
    n.node.span.start ≤ c.span.start ∧ c.span.stop ≤ n.node.span.stop
  /-- Children stand in order and share no bytes. -/
  inOrder : ∀ n, root.Has n →
    n.node.children.Pairwise fun a b => a.span.stop ≤ b.span.start

instance (root : Node) : Decidable root.Nested :=
  decidable_of_iff (_ ∧ _) ⟨fun ⟨h, h'⟩ => ⟨h, h'⟩, fun ⟨h, h'⟩ => ⟨h, h'⟩⟩

section
variable {root : Node} (hroot : root.Nested)
include hroot

theorem Nested.inside_of_mem_children {n c : Located} (hn : root.Has n) (hc : c ∈ n.children) :
    n.node.span.start ≤ c.node.span.start ∧ c.node.span.stop ≤ n.node.span.stop := by
  refine hroot.inside n hn c.node ?_
  rw [← Located.map_node_children]
  exact List.mem_map_of_mem hc

/-- What lies below a node is inside it. -/
theorem Nested.inside_of_below {n m : Located} (hn : root.Has n) (h : n.Below m) :
    n.node.span.start ≤ m.node.span.start ∧ m.node.span.stop ≤ n.node.span.stop := by
  induction h with
  | child hc => exact hroot.inside_of_mem_children hn hc
  | step hm hc ih =>
    have := hroot.inside_of_mem_children (hm.has hn) hc
    omega

/-- If the nodes on a stack stand one after the other, then of any two nodes that are visited the
    later one lies below the earlier one, or begins behind it. -/
theorem Nested.visit_pairwise {stack : List Located} (hstack : ∀ n ∈ stack, root.Has n)
    (hord : stack.Pairwise fun a b => a.node.span.stop ≤ b.node.span.start) :
    (Located.visit stack).Pairwise fun a b =>
      a.Below b ∨ a.node.span.stop ≤ b.node.span.start := by
  fun_induction Located.visit stack with
  | case1 => exact .nil
  | case2 n stack ih =>
    have hn := hstack n List.mem_cons_self
    rw [List.pairwise_cons] at hord
    rw [List.pairwise_cons]
    constructor
    · intro m hm
      obtain ⟨l, hl, hlm⟩ := Located.mem_visit_iff.mp hm
      rcases List.mem_append.mp hl with hl | hl
      · exact .inl (Located.below_iff_exists_child.mpr ⟨l, hl, hlm⟩)
      · -- The node comes from further down the stack, where everything begins behind `n`.
        have hnl := hord.1 l hl
        rcases hlm with rfl | hlm
        · exact .inr hnl
        · have := hroot.inside_of_below (hstack l (List.mem_cons_of_mem _ hl)) hlm
          exact .inr (by omega)
    · apply ih
      · intro l hl
        rcases List.mem_append.mp hl with hl | hl
        · exact .child hn hl
        · exact hstack l (List.mem_cons_of_mem _ hl)
      · rw [List.pairwise_append]
        refine ⟨?_, hord.2, ?_⟩
        · have hchildren := hroot.inOrder n hn
          rwa [← Located.map_node_children, List.pairwise_map] at hchildren
        · intro c hc l hl
          have hcn := hroot.inside_of_mem_children hn hc
          have hnl := hord.1 l hl
          omega

/-- Of any two nodes that the walk over a nested tree meets, the later one lies below the earlier
    one, or begins behind it. -/
theorem Nested.walk_pairwise :
    root.walk.Pairwise fun a b => a.Below b ∨ a.node.span.stop ≤ b.node.span.start := by
  refine hroot.visit_pairwise (fun n hn => ?_) (List.pairwise_singleton _ _)
  rw [List.mem_singleton.mp hn]
  exact .root

end

end Node

end ArityFill
