import ArityFill.Proofs.Tree.Below
import Mathlib.Data.List.Pairwise

/-! # Siblings known by their spans

    Whether a node is a particular child of its parent is asked by comparing kinds and spans, and
    two nodes can have both in common. If siblings share no byte (`SiblingsSeparate`) and the node
    has a byte of its own, then no other child is taken for it: `SiblingsSeparate.eq_of_sameSpan`.
    So a node looks like the first child in a role exactly if it is this child.
-/

namespace ArityFill

namespace Span

/-- Whether no byte belongs to both of two spans. -/
def Separate (a b : Span) : Prop :=
  ∀ i, ¬ ((a.start ≤ i ∧ i < a.stop) ∧ b.start ≤ i ∧ i < b.stop)

theorem separate_iff {a b : Span} :
    a.Separate b ↔ min a.stop b.stop ≤ max a.start b.start := by
  constructor
  · intro h
    -- The later start would be a common byte.
    have hfirst := h (max a.start b.start)
    omega
  · intro h i hi
    omega

instance (a b : Span) : Decidable (a.Separate b) :=
  decidable_of_iff _ separate_iff.symm

theorem Separate.symm {a b : Span} (h : a.Separate b) : b.Separate a :=
  fun i hi => h i hi.symm

end Span

namespace Located

/-- Whether a node is the first child of another one in a role: it has the role, and no child to
    the left of it has. -/
def IsFirst (p : Located) (field : Field) (n : Located) : Prop :=
  n.node.field = some field ∧
    ∃ left right, p.children = left ++ n :: right ∧ ∀ c ∈ left, c.node.field ≠ some field

theorem child?_eq_some_iff {p n : Located} {field : Field} :
    p.child? field = some n ↔ p.IsFirst field n := by
  simp [child?, IsFirst, List.find?_eq_some_iff_append]

theorem IsFirst.mem_children {p n : Located} {field : Field} (h : p.IsFirst field n) :
    n ∈ p.children :=
  mem_children_of_child? (child?_eq_some_iff.mpr h)

end Located

namespace Node

/-- Whether children of one node never share a byte. -/
def SiblingsSeparate (root : Node) : Prop :=
  ∀ n, root.Has n → n.node.children.Pairwise fun a b => a.span.Separate b.span

instance (root : Node) : Decidable root.SiblingsSeparate :=
  inferInstanceAs (Decidable (∀ n, root.Has n → _))

section
variable {root : Node} (hroot : root.SiblingsSeparate) {p m n : Located} (hp : root.Has p)
include hroot hp

/-- A node with a byte of its own is told from its siblings by its span. -/
theorem SiblingsSeparate.eq_of_sameSpan (hm : m ∈ p.children) (hn : n ∈ p.children)
    (hfull : n.node.span.start < n.node.span.stop) (hsame : m.node.sameSpan n.node = true) :
    m = n := by
  have hpairs := hroot p hp
  rw [← Located.map_node_children, List.pairwise_map] at hpairs
  have hsymm : Std.Symm fun a b : Located => a.node.span.Separate b.node.span :=
    ⟨fun _ _ h => h.symm⟩
  by_contra hne
  have hseparate := hpairs.forall hm hn hne
  simp only [sameSpan, decide_eq_true_eq] at hsame
  -- The first byte would belong to both.
  apply hseparate n.node.span.start
  rw [hsame.1]
  omega

/-- A node looks like the first child in a role exactly if it is this child. -/
theorem SiblingsSeparate.any_sameSpan_iff (hn : n ∈ p.children)
    (hfull : n.node.span.start < n.node.span.stop) (field : Field) :
    (p.node.child? field).any (fun c => c.sameSpan n.node) = true ↔ p.IsFirst field n := by
  rw [← Located.child?_eq_some_iff, ← Located.node_child?, Option.any_map, Option.any_eq_true]
  constructor
  · intro h
    obtain ⟨c, hc, hsame⟩ := h
    have heq := hroot.eq_of_sameSpan hp (Located.mem_children_of_child? hc) hn hfull hsame
    rw [← heq]
    exact hc
  · intro h
    exact ⟨n, h, by simp [sameSpan]⟩

end

/-- The last step of the way to a node leads from its parent. -/
theorem Has.exists_parent {root a : Node} {n : Located} {above : List Node} (hn : root.Has n)
    (habove : n.above = a :: above) :
    ∃ p, root.Has p ∧ n ∈ p.children ∧ p.node = a ∧ p.above = above := by
  cases hn with
  | root => cases habove
  | @child p n hp hc =>
    refine ⟨p, hp, hc, ?_⟩
    obtain ⟨k, x, _, hn⟩ := Located.mem_children_iff.mp hc
    subst hn
    exact List.cons.inj habove

end Node

end ArityFill
