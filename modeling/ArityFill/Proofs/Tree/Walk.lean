import ArityFill.Tree.Basic

/-! # What a walk reaches

    A walk visits everything on its stack, and with a node it visits the children of that node. So
    what holds of every node that a walk visits holds of the children of these nodes too. It visits
    nothing else: what it reaches is what can be reached from the root by stepping to children.
-/

namespace ArityFill

namespace Located

theorem mem_childrenFrom {n : Located} {i : Nat} {cs : List Node} {c : Node} (h : c ∈ cs) :
    ∃ m ∈ n.childrenFrom i cs, m.node = c := by
  induction cs generalizing i with
  | nil => cases h
  | cons d cs ih =>
    rcases List.mem_cons.mp h with rfl | h
    · exact ⟨_, List.mem_cons_self, rfl⟩
    · obtain ⟨m, hm, rfl⟩ := ih (i := i + 1) h
      exact ⟨m, List.mem_cons_of_mem _ hm, rfl⟩

/-- What is on the stack is visited. -/
theorem mem_visit_of_mem {stack : List Located} {n : Located} (h : n ∈ stack) :
    n ∈ visit stack := by
  fun_induction visit stack with
  | case1 => cases h
  | case2 m stack ih =>
    rcases List.mem_cons.mp h with rfl | h
    · exact List.mem_cons_self
    · exact List.mem_cons_of_mem _ (ih (List.mem_append_right _ h))

/-- With a node its children are visited. -/
theorem mem_visit_of_mem_children {stack : List Located} {n c : Located} (hn : n ∈ visit stack)
    (hc : c ∈ n.children) : c ∈ visit stack := by
  fun_induction visit stack with
  | case1 => cases hn
  | case2 m stack ih =>
    rcases List.mem_cons.mp hn with rfl | hn
    · exact List.mem_cons_of_mem _ (mem_visit_of_mem (List.mem_append_left _ hc))
    · exact List.mem_cons_of_mem _ (ih hn)

end Located

namespace Node

/-- The walk over a tree reaches the children of what it reaches. -/
theorem walk_children {root : Node} {n : Located} (hn : n ∈ root.walk) {c : Node}
    (hc : c ∈ n.node.children) : ∃ m ∈ root.walk, m.node = c := by
  obtain ⟨m, hm, hmc⟩ := Located.mem_childrenFrom (n := n) (i := 0) hc
  exact ⟨m, Located.mem_visit_of_mem_children hn hm, hmc⟩

/-- The walk over a tree reaches the child in a role of what it reaches. -/
theorem walk_child? {root : Node} {n : Located} (hn : n ∈ root.walk) {field : Field} {c : Node}
    (hc : n.node.child? field = some c) : ∃ m ∈ root.walk, m.node = c :=
  walk_children hn (List.mem_of_find?_eq_some hc)

/-- The nodes of a tree with the ways to them: the root, and the children of nodes. -/
inductive Has (root : Node) : Located → Prop where
  /-- The root is a node, and the way to it is empty. -/
  | root : Has root ⟨root, [], []⟩
  /-- A child of a node is a node. -/
  | child {n c : Located} : Has root n → c ∈ n.children → Has root c

/-- What a walk visits can be reached, if what is on its stack can. -/
theorem has_of_mem_visit {root : Node} {stack : List Located} (hstack : ∀ n ∈ stack, root.Has n)
    {n : Located} (h : n ∈ Located.visit stack) : root.Has n := by
  fun_induction Located.visit stack with
  | case1 => cases h
  | case2 m stack ih =>
    have hm := hstack m List.mem_cons_self
    rcases List.mem_cons.mp h with rfl | h
    · exact hm
    · refine ih (fun c hc => ?_) h
      rcases List.mem_append.mp hc with hc | hc
      · exact .child hm hc
      · exact hstack c (List.mem_cons_of_mem _ hc)

/-- A walk reaches the nodes of a tree and nothing else. -/
theorem mem_walk_iff {root : Node} {n : Located} : n ∈ root.walk ↔ root.Has n := by
  constructor
  · exact has_of_mem_visit (by simpa using Has.root)
  · intro h
    induction h with
    | root => exact Located.mem_visit_of_mem List.mem_cons_self
    | child _ hc ih => exact Located.mem_visit_of_mem_children ih hc

end Node

end ArityFill
