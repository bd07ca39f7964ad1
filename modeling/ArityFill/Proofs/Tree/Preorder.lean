import ArityFill.Document.Reference
import ArityFill.Proofs.Tree.Below
import ArityFill.Proofs.Tree.Rows
import Mathlib.Data.List.Forall2
import Mathlib.Data.List.Nodup
import Mathlib.Logic.Function.Iterate

/-! # The order of a walk

    A walk keeps a stack in which the pending children of all levels lie one above the other. The
    order in which it visits nodes is still the one that recursion would give: `Located.subtree` is
    a node and then the subtrees of its children from left to right.

    - `visit_eq_flatMap_subtree`: what a stack still holds is the subtrees of its nodes, one after
      the other. This is the invariant of the loop, and all else about the order follows from it.
    - `turn_iterate_eq_nil_iff`: the loop ends after one turn for each node.
    - `visit_pairwise_not_inSubtree`: nothing is visited before what lies on the way to it, and so
      nothing is visited twice.
    - `Located.ancestors` are the nodes on the way, and they are the nodes with a subtree around it.
    - `rows_list_walk`: row by row the table of a tree in pre-order lists what the walk visits.
-/

namespace ArityFill

/-! ## Pre-order by recursion -/

namespace Node

mutual

/-- The nodes of a tree in pre-order, given the way to its root. -/
def preorder (above : List Node) (trail : List Nat) : Node → List Located
  | ⟨kind, span, named, field, children⟩ =>
    ⟨⟨kind, span, named, field, children⟩, above, trail⟩ ::
      preorderAll (⟨kind, span, named, field, children⟩ :: above) trail 0 children

/-- The nodes of some trees, one tree after the other. The first of them is child `i`. -/
def preorderAll (above : List Node) (trail : List Nat) (i : Nat) : List Node → List Located
  | [] => []
  | n :: ns => preorder above (i :: trail) n ++ preorderAll above trail (i + 1) ns

end

end Node

namespace Located

/-- A node and everything below it, in pre-order. -/
def subtree (n : Located) : List Located :=
  n.node.preorder n.above n.trail

theorem preorderAll_eq_flatMap (n : Located) (i : Nat) (cs : List Node) :
    Node.preorderAll (n.node :: n.above) n.trail i cs =
      (n.childrenFrom i cs).flatMap subtree := by
  induction cs generalizing i with
  | nil => rfl
  | cons c cs ih =>
    rw [Node.preorderAll, ih, childrenFrom, List.flatMap_cons]
    rfl

/-- A node comes first, and then come the subtrees of its children from left to right. -/
theorem subtree_eq (n : Located) : n.subtree = n :: n.children.flatMap subtree := by
  obtain ⟨⟨kind, span, named, field, cs⟩, above, trail⟩ := n
  rw [children, ← preorderAll_eq_flatMap, subtree, Node.preorder]

/-! ## The loop -/

/-- What is visited from a stack is the subtrees of what lies on it, one after the other. -/
theorem visit_eq_flatMap_subtree (stack : List Located) : visit stack = stack.flatMap subtree := by
  fun_induction visit stack with
  | case1 => rfl
  | case2 n stack ih =>
    rw [ih, List.flatMap_append, List.flatMap_cons, subtree_eq n]
    rfl

theorem mem_subtree_iff {n m : Located} : m ∈ n.subtree ↔ m = n ∨ n.Below m := by
  rw [subtree_eq, List.mem_cons, ← visit_eq_flatMap_subtree, mem_visit_children_iff]

theorem length_visit (stack : List Located) : (visit stack).length = pending stack := by
  fun_induction visit stack with
  | case1 => rfl
  | case2 n stack ih =>
    rw [List.length_cons, ih, pending_append, pending]
    have hsize := size_eq_pending_children n
    omega

theorem length_subtree (n : Located) : n.subtree.length = n.node.size := by
  have hlength := length_visit [n]
  rw [visit_eq_flatMap_subtree, List.flatMap_singleton] at hlength
  exact hlength

/-- One turn of the loop: the top of the stack makes way for its children. -/
def turn : List Located → List Located
  | [] => []
  | n :: stack => n.children ++ stack

/-- A turn takes one node off what is still to be visited. -/
theorem visit_turn (stack : List Located) : visit (turn stack) = (visit stack).drop 1 := by
  cases stack with
  | nil => simp only [turn, visit, List.drop_nil]
  | cons n stack =>
    rw [visit]
    rfl

theorem visit_turn_iterate (stack : List Located) (k : Nat) :
    visit (turn^[k] stack) = (visit stack).drop k := by
  induction k with
  | zero => rfl
  | succ k ih => rw [Function.iterate_succ_apply', visit_turn, ih, List.drop_drop]

theorem head?_visit (stack : List Located) : (visit stack).head? = stack.head? := by
  cases stack with
  | nil => rw [visit]
  | cons n stack =>
    rw [visit]
    rfl

/-- The node that is visited in a turn is the top of the stack. -/
theorem head?_turn_iterate (stack : List Located) (k : Nat) :
    (turn^[k] stack).head? = (visit stack)[k]? := by
  rw [← head?_visit, visit_turn_iterate, List.head?_drop]

/-- The loop ends after as many turns as there are nodes. -/
theorem turn_iterate_eq_nil_iff (stack : List Located) (k : Nat) :
    turn^[k] stack = [] ↔ pending stack ≤ k := by
  rw [← List.head?_eq_none_iff, head?_turn_iterate, List.getElem?_eq_none_iff, length_visit]

/-! ## Every node once, and none before its ancestors -/

/-- Two nodes of which neither lies on the way to the other. -/
def Apart (a b : Located) : Prop :=
  ¬ a.InSubtree b ∧ ¬ b.InSubtree a

/-- Different children of a node are apart: the ways to them differ in the last step. -/
theorem childrenFrom_pairwise_apart (n : Located) (i : Nat) (cs : List Node) :
    (n.childrenFrom i cs).Pairwise Apart := by
  have hstep : ∀ {j k : Nat}, j ≠ k → ¬ (j :: n.trail <:+ k :: n.trail) := by
    intro j k hne hsuffix
    have hsame := hsuffix.eq_of_length rfl
    exact hne (List.cons.inj hsame).1
  induction cs generalizing i with
  | nil => exact .nil
  | cons c cs ih =>
    rw [childrenFrom, List.pairwise_cons]
    refine ⟨?_, ih (i + 1)⟩
    intro m hm
    obtain ⟨k, x, _, hm⟩ := mem_childrenFrom_iff.mp hm
    subst hm
    exact ⟨hstep (by omega), hstep (by omega)⟩

/-- A child is apart from what its parent is apart from. -/
theorem Apart.child {n c b : Located} (h : n.Apart b) (hc : c ∈ n.children) : c.Apart b := by
  obtain ⟨k, x, _, hc⟩ := mem_children_iff.mp hc
  subst hc
  constructor
  · intro hin
    exact h.1 ((List.suffix_cons k n.trail).trans hin)
  · intro hin
    rcases List.suffix_cons_iff.mp hin with hsame | hsuffix
    · -- The way to `b` would end in the way to the parent.
      apply h.1
      show n.trail <:+ b.trail
      rw [hsame]
      exact List.suffix_cons k n.trail
    · exact h.2 hsuffix

/-- If what lies on a stack is apart, then of any two nodes that are visited the later one does not
    lie on the way to the earlier one. -/
theorem visit_pairwise_not_inSubtree {stack : List Located} (hstack : stack.Pairwise Apart) :
    (visit stack).Pairwise fun a b => ¬ b.InSubtree a := by
  fun_induction visit stack with
  | case1 => exact .nil
  | case2 n stack ih =>
    rw [List.pairwise_cons] at hstack
    rw [List.pairwise_cons]
    constructor
    · intro m hm hin
      -- `m` is in the subtree of a child or of something further down the stack.
      obtain ⟨l, hl, hlm⟩ := mem_visit_iff.mp hm
      have hlin : l.InSubtree m := by
        rcases hlm with hsame | hbelow
        · rw [hsame]
          exact List.suffix_refl _
        · exact hbelow.inSubtree
      have hln : l.InSubtree n := hlin.trans hin
      rcases List.mem_append.mp hl with hchild | hlater
      · obtain ⟨k, x, _, hl⟩ := mem_children_iff.mp hchild
        subst hl
        have hlength := hln.length_le
        exact absurd hlength (Nat.not_succ_le_self _)
      · exact (hstack.1 l hlater).2 hln
    · apply ih
      rw [List.pairwise_append]
      refine ⟨childrenFrom_pairwise_apart n 0 _, hstack.2, ?_⟩
      intro c hc b hb
      exact (hstack.1 b hb).child hc

/-! ## Ancestors -/

theorem ancestors_of_mem_children {n c : Located} (hc : c ∈ n.children) :
    c.ancestors = n :: n.ancestors := by
  obtain ⟨k, x, _, hc⟩ := mem_children_iff.mp hc
  subst hc
  rfl

/-- A node is a child of one node only. -/
theorem eq_of_mem_children {n m c : Located} (hn : c ∈ n.children) (hm : c ∈ m.children) :
    n = m := by
  have hsame := (ancestors_of_mem_children hn).symm.trans (ancestors_of_mem_children hm)
  exact (List.cons.inj hsame).1

theorem Below.length_trail_lt {n m : Located} (h : n.Below m) :
    n.trail.length < m.trail.length := by
  have hchild : ∀ {p c : Located}, c ∈ p.children → c.trail.length = p.trail.length + 1 := by
    intro p c hc
    obtain ⟨k, x, _, hc⟩ := mem_children_iff.mp hc
    subst hc
    rfl
  induction h with
  | child hc =>
    rw [hchild hc]
    exact Nat.lt_succ_self _
  | step _ hc ih =>
    rw [hchild hc]
    omega

/-- What lies below a node is in its subtree and is another node. -/
theorem below_iff_mem_subtree {n m : Located} : n.Below m ↔ m ∈ n.subtree ∧ m ≠ n := by
  rw [mem_subtree_iff]
  constructor
  · intro h
    refine ⟨.inr h, ?_⟩
    intro hsame
    subst hsame
    exact Nat.lt_irrefl _ h.length_trail_lt
  · intro h
    exact h.1.resolve_left h.2

end Located

namespace Node

variable {root : Node} {n : Located}

/-- The ancestors of a node are those that it lies below. -/
theorem Has.mem_ancestors_iff (hn : root.Has n) {m : Located} :
    m ∈ n.ancestors ↔ root.Has m ∧ m.Below n := by
  induction hn with
  | root =>
    constructor
    · intro hm
      cases hm
    · intro hm
      exact absurd hm.2.length_trail_lt (Nat.not_lt_zero _)
  | child hp hc ih =>
    rw [Located.ancestors_of_mem_children hc, List.mem_cons, ih]
    constructor
    · intro hm
      rcases hm with hsame | hm
      · rw [hsame]
        exact ⟨hp, .child hc⟩
      · exact ⟨hm.1, .step hm.2 hc⟩
    · intro hm
      -- The way down to a child leads through its one parent.
      obtain ⟨q, hq, hcq⟩ := hm.2.exists_parent
      have hsame := Located.eq_of_mem_children hc hcq
      subst hsame
      rcases hq with hq | hq
      · exact .inl hq.symm
      · exact .inr ⟨hm.1, hq⟩

/-- Ancestors come nearest first. -/
theorem Has.ancestors_pairwise (hn : root.Has n) :
    n.ancestors.Pairwise fun a b => b.Below a := by
  induction hn with
  | root => exact .nil
  | child hp hc ih =>
    rw [Located.ancestors_of_mem_children hc, List.pairwise_cons]
    refine ⟨?_, ih⟩
    intro b hb
    exact (hp.mem_ancestors_iff.mp hb).2

/-- The root comes last. -/
theorem Has.getLast?_ancestors (hn : root.Has n) :
    (n :: n.ancestors).getLast? = some ⟨root, [], []⟩ := by
  induction hn with
  | root => rfl
  | child hp hc ih =>
    rw [Located.ancestors_of_mem_children hc, List.getLast?_cons_cons]
    exact ih

/-! ## Walks -/

theorem walk_eq_subtree (root : Node) : root.walk = Located.subtree ⟨root, [], []⟩ := by
  rw [walk, Located.visit_eq_flatMap_subtree, List.flatMap_singleton]

theorem walk_pairwise_not_inSubtree (root : Node) :
    root.walk.Pairwise fun a b => ¬ b.InSubtree a :=
  Located.visit_pairwise_not_inSubtree (List.pairwise_singleton _ _)

/-- No node is visited twice. -/
theorem nodup_trail_walk (root : Node) : (root.walk.map Located.trail).Nodup := by
  rw [List.Nodup, List.pairwise_map]
  apply root.walk_pairwise_not_inSubtree.imp
  intro a b hnot hsame
  apply hnot
  show b.trail <:+ a.trail
  exact hsame ▸ List.suffix_refl _

/-- When a node is visited, its ancestors have been visited. -/
theorem mem_before_of_mem_ancestors {before after : List Located}
    (hwalk : root.walk = before ++ n :: after) {m : Located} (hm : m ∈ n.ancestors) :
    m ∈ before := by
  have hn : root.Has n := by
    rw [← mem_walk_iff, hwalk]
    exact List.mem_append_right _ List.mem_cons_self
  obtain ⟨hhas, hbelow⟩ := hn.mem_ancestors_iff.mp hm
  have hmem : m ∈ before ++ n :: after := by
    rw [← hwalk, mem_walk_iff]
    exact hhas
  rcases List.mem_append.mp hmem with hbefore | hlater
  · exact hbefore
  · exfalso
    rcases List.mem_cons.mp hlater with hsame | hafter
    · exact (Located.below_iff_mem_subtree.mp hbelow).2 hsame.symm
    · have hpairs := root.walk_pairwise_not_inSubtree
      rw [hwalk, List.pairwise_append] at hpairs
      exact (List.pairwise_cons.mp hpairs.2.1).1 m hafter hbelow.inSubtree

end Node

/-! ## Tables -/

/-- A row that lists a node of a walk: it has what the node has apart from its children, and it
    belongs below the row with the number that the parent has in the walk. -/
structure Row.Lists (walk : List Located) (r : Row) (n : Located) : Prop where
  /-- The row has the kind, the span and the role of the node. -/
  node : r.toNode n.node.children = n.node
  /-- Only the root belongs below no row. -/
  root : r.parent = none → n.trail = []
  /-- The row of the parent has the number of the parent in the walk. -/
  parent : ∀ p, r.parent = some p → ∃ m, walk[p]? = some m ∧ n ∈ m.children

namespace Node

/-- The first of some nodes that stand in a walk from place `i` on. -/
theorem of_cons_prefix_drop {walk ns : List Located} {n : Located} {i : Nat}
    (h : n :: ns <+: walk.drop i) : walk[i]? = some n ∧ ns <+: walk.drop (i + 1) := by
  obtain ⟨after, hafter⟩ := h
  constructor
  · rw [← List.head?_drop, ← hafter]
    rfl
  · rw [← List.drop_drop, ← hafter]
    exact List.prefix_append ns after

mutual

/-- If the nodes of a tree stand in a walk from place `i` on, then its rows from row `i` on list
    them. -/
theorem lists_rowsFrom (walk : List Located) (parent : Option Nat) (i : Nat) (above : List Node)
    (trail : List Nat) :
    (n : Node) → n.preorder above trail <+: walk.drop i → (parent = none → trail = []) →
      (∀ p, parent = some p → ∃ m, walk[p]? = some m ∧ ⟨n, above, trail⟩ ∈ m.children) →
      List.Forall₂ (Row.Lists walk) (rowsFrom parent i n) (n.preorder above trail)
  | ⟨kind, span, named, field, children⟩, hwalk, hroot, hparent => by
    rw [preorder] at hwalk ⊢
    rw [rowsFrom]
    obtain ⟨hhere, hbelow⟩ := of_cons_prefix_drop hwalk
    refine .cons ⟨rfl, hroot, hparent⟩ ?_
    exact lists_rowsFromAll walk ⟨⟨kind, span, named, field, children⟩, above, trail⟩ i (i + 1) 0
      children hhere hbelow (by simp)

/-- The same for some children of a node, the first of them being child `j`. -/
theorem lists_rowsFromAll (walk : List Located) (m : Located) (parent i j : Nat) :
    (ns : List Node) → walk[parent]? = some m →
      preorderAll (m.node :: m.above) m.trail j ns <+: walk.drop i →
      (∀ k x, ns[k]? = some x → m.node.children[j + k]? = some x) →
      List.Forall₂ (Row.Lists walk) (rowsFromAll parent i ns)
        (preorderAll (m.node :: m.above) m.trail j ns)
  | [], _, _, _ => by
    rw [rowsFromAll, preorderAll]
    exact .nil
  | n :: ns, hparent, hwalk, hchildren => by
    rw [preorderAll] at hwalk ⊢
    rw [rowsFromAll]
    obtain ⟨after, hafter⟩ := hwalk
    have hfirst : preorder (m.node :: m.above) (j :: m.trail) n <+: walk.drop i := by
      rw [← hafter, List.append_assoc]
      exact List.prefix_append _ _
    -- The tree of the first child takes as many places as it has nodes.
    have hothers : preorderAll (m.node :: m.above) m.trail (j + 1) ns <+:
        walk.drop (i + n.size) := by
      have hlength := Located.length_subtree ⟨n, m.node :: m.above, j :: m.trail⟩
      rw [Located.subtree] at hlength
      rw [← List.drop_drop, ← hafter, List.append_assoc, ← hlength, List.drop_left]
      exact List.prefix_append _ _
    have hn : (⟨n, m.node :: m.above, j :: m.trail⟩ : Located) ∈ m.children :=
      Located.mem_children_iff.mpr ⟨j, n, hchildren 0 n rfl, rfl⟩
    have hrest : ∀ k x, ns[k]? = some x → m.node.children[j + 1 + k]? = some x := by
      intro k x hx
      rw [Nat.add_assoc, Nat.add_comm 1 k]
      exact hchildren (k + 1) x hx
    refine List.rel_append (lists_rowsFrom walk (some parent) i _ _ n hfirst ?_ ?_)
      (lists_rowsFromAll walk m parent (i + n.size) (j + 1) ns hparent hothers hrest)
    · intro hnone
      cases hnone
    · intro p hp
      cases hp
      exact ⟨m, hparent, hn⟩

end

/-- Row by row the table of a tree lists what the walk visits. -/
theorem rows_list_walk (root : Node) :
    List.Forall₂ (Row.Lists root.walk) root.rows root.walk := by
  have hwalk : root.preorder [] [] = root.walk := root.walk_eq_subtree.symm
  have hplaces : root.preorder [] [] <+: root.walk.drop 0 := by
    rw [List.drop_zero]
    exact hwalk ▸ List.prefix_refl _
  have hlists := lists_rowsFrom root.walk none 0 [] [] root hplaces (fun _ => rfl)
    (fun p hp => nomatch hp)
  rw [hwalk] at hlists
  exact hlists

/-! ## The whole walk -/

/-- **The loop with a stack visits a tree in its recursive pre-order.** A subtree is a node and then
    the subtrees of its children from left to right, and the walk is the subtree of the root. The
    loop visits the top of its stack in each turn, and its stack is empty after one turn for each
    node and not before. So each node is visited, and none twice. A tree has a table in pre-order
    from which it is read, and the walk of a tree that is read from such a table visits what the
    rows list, one row after the other. The type references of a document are visited in this order
    too, without repetition. Before a node its ancestors are visited: the nodes that have it in
    their subtree, apart from itself. The nodes above it are these, the nearest first and the root
    last. -/
theorem walk_in_preorder (root : Node) :
    (∀ n : Located, n.subtree = n :: n.children.flatMap Located.subtree) ∧
    root.walk = Located.subtree ⟨root, [], []⟩ ∧
    (∀ k, (Located.turn^[k] [⟨root, [], []⟩]).head? = root.walk[k]?) ∧
    (∀ k, Located.turn^[k] [⟨root, [], []⟩] = [] ↔ root.size ≤ k) ∧
    (∀ n, n ∈ root.walk ↔ root.Has n) ∧
    (root.walk.map Located.trail).Nodup ∧
    Row.InPreorder root.rows ∧ ofRows? root.rows = some root ∧
    (∀ rows, Row.InPreorder rows → ofRows? rows = some root →
      List.Forall₂ (Row.Lists root.walk) rows root.walk) ∧
    (∀ d : Document, d.root = root → d.references.Sublist root.walk ∧ d.references.Nodup) ∧
    (∀ before n after, root.walk = before ++ n :: after → ∀ m ∈ n.ancestors, m ∈ before) ∧
    ∀ n, root.Has n →
      n.ancestors.map Located.node = n.above ∧
      (∀ m, m ∈ n.ancestors ↔ root.Has m ∧ n ∈ m.subtree ∧ n ≠ m) ∧
      n.ancestors.Pairwise (fun a b => b.Below a) ∧
      (n :: n.ancestors).getLast? = some ⟨root, [], []⟩ := by
  refine ⟨Located.subtree_eq, root.walk_eq_subtree, Located.head?_turn_iterate _, ?_,
    fun n => mem_walk_iff, root.nodup_trail_walk, Row.inPreorder_iff.mpr ⟨root, rfl⟩,
    root.ofRows?_rows, ?_, ?_,
    fun before n after hwalk m hm => mem_before_of_mem_ancestors hwalk hm, ?_⟩
  · intro k
    rw [Located.turn_iterate_eq_nil_iff]
    rfl
  · intro rows hrows hread
    obtain ⟨written, hwritten⟩ := Row.inPreorder_iff.mp hrows
    subst hwritten
    rw [ofRows?_rows, Option.some.injEq] at hread
    rw [← hread]
    exact written.rows_list_walk
  · intro d hroot
    have hsublist : d.references.Sublist root.walk := by
      rw [← hroot]
      exact List.filter_sublist
    have hnodup : root.walk.Nodup := List.Nodup.of_map _ root.nodup_trail_walk
    exact ⟨hsublist, hnodup.sublist hsublist⟩
  · intro n hn
    refine ⟨n.map_node_ancestors, ?_, hn.ancestors_pairwise, hn.getLast?_ancestors⟩
    intro m
    rw [hn.mem_ancestors_iff, Located.below_iff_mem_subtree]

end Node

namespace Sample

/-- A child that looks like its sibling. -/
def twin : Node := ⟨"type_identifier", ⟨1, 1⟩, true, none, []⟩

/-- A tree with two children that only the ways to them tell apart. -/
def twins : Node := ⟨"tuple_type", ⟨0, 2⟩, true, none, [twin, twin]⟩

end Sample

/-- Two children that look alike are visited one after the other, both behind the root, and their
    table has a row for each. -/
theorem Node.walk_in_preorder_twins :
    Sample.twins.walk = [⟨Sample.twins, [], []⟩, ⟨Sample.twin, [Sample.twins], [0]⟩,
      ⟨Sample.twin, [Sample.twins], [1]⟩] ∧
    Sample.twins.rows.map Row.parent = [none, some 0, some 0] ∧
    List.Forall₂ (Row.Lists Sample.twins.walk) Sample.twins.rows Sample.twins.walk ∧
    Sample.twins.Has ⟨Sample.twin, [Sample.twins], [1]⟩ ∧
    Located.turn^[3] [⟨Sample.twins, [], []⟩] = [] ∧
    ⟨Sample.twins, [], []⟩ ∈ (⟨Sample.twin, [Sample.twins], [1]⟩ : Located).ancestors ∧
    (Document.mk [] Sample.twins "any" [] []).references.Nodup := by
  obtain ⟨_, hsubtree, _, hend, hmem, _, hpreorder, hread, hrows, hreferences, _, hancestors⟩ :=
    walk_in_preorder Sample.twins
  have hwalk : Sample.twins.walk = [⟨Sample.twins, [], []⟩, ⟨Sample.twin, [Sample.twins], [0]⟩,
      ⟨Sample.twin, [Sample.twins], [1]⟩] := hsubtree.trans rfl
  have hhas : Sample.twins.Has ⟨Sample.twin, [Sample.twins], [1]⟩ := by
    rw [← hmem, hwalk]
    exact List.mem_cons_of_mem _ (List.mem_cons_of_mem _ List.mem_cons_self)
  obtain ⟨_, hstrict, _⟩ := hancestors _ hhas
  refine ⟨hwalk, rfl, hrows _ hpreorder hread, hhas, (hend 3).mpr (by decide), ?_,
    (hreferences _ rfl).2⟩
  refine (hstrict _).mpr ⟨.root, ?_, ?_⟩
  · rw [← hsubtree, hwalk]
    exact List.mem_cons_of_mem _ (List.mem_cons_of_mem _ List.mem_cons_self)
  · intro hsame
    cases congrArg Located.trail hsame

end ArityFill
