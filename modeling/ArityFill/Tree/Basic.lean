import ArityFill.Span

/-! # Syntax trees

    A parser gives back a tree of nodes. A node has a kind, a span, and possibly a field: the role
    that it plays for its parent. `Located` adds the way from the root to a node: the ancestors, so
    that a rule can look upwards, and the numbers of the children on that way.

    `Node.walk` lists the nodes of a tree with a stack of pending nodes, a parent before its
    children and children from left to right.
-/

namespace ArityFill

/-- The role of a child. Only the roles that some rule asks for are told apart. -/
inductive Field where
  /-- The name of a declaration or of an applied type. -/
  | name
  /-- The arguments of an applied type. -/
  | typeArguments
  /-- The annotation of a parameter. -/
  | type
  /-- The pattern that a parameter binds. -/
  | pattern
  /-- The qualifier of a nested name. -/
  | qualifier
  deriving DecidableEq, Repr

/-- A node of a syntax tree. -/
structure Node where
  /-- The kind, in the words of the grammar. -/
  kind : String
  /-- The bytes that it covers. -/
  span : Span
  /-- Whether it is more than punctuation or a keyword. -/
  named : Bool
  /-- The role that it plays for its parent. -/
  field : Option Field
  /-- The children from left to right. -/
  children : List Node
  deriving Repr

namespace Node

/-- The first child in a role. -/
def child? (n : Node) (field : Field) : Option Node :=
  n.children.find? fun c => c.field = some field

/-- Whether two nodes have the same kind and cover the same bytes. -/
def sameSpan (a b : Node) : Bool :=
  a.span = b.span ∧ a.kind = b.kind

mutual

/-- The number of nodes of a tree. -/
def size : Node → Nat
  | ⟨_, _, _, _, children⟩ => 1 + sizeAll children

/-- The number of nodes of some trees. -/
def sizeAll : List Node → Nat
  | [] => 0
  | n :: ns => size n + sizeAll ns

end

theorem size_eq (n : Node) : n.size = 1 + sizeAll n.children := by
  cases n
  simp [size]

end Node

/-- A node and the way to it from the root. Two nodes of a tree can look alike in every respect,
    and then only the way to them tells them apart. -/
structure Located where
  /-- The node. -/
  node : Node
  /-- Its ancestors: the parent first and the root last. -/
  above : List Node
  /-- Which child it is of its parent, which child that one is of its own, and so on. -/
  trail : List Nat
  deriving Repr

namespace Located

/-- The parent. -/
def parent? (n : Located) : Option Node :=
  n.above.head?

/-- The nodes on a way to the root, with the ways to them. -/
def lineage : List Node → List Nat → List Located
  | [], _ => []
  | a :: above, trail => ⟨a, above, trail.tail⟩ :: lineage above trail.tail

/-- The ancestors of a node with the ways to them, the parent first. -/
def ancestors (n : Located) : List Located :=
  lineage n.above n.trail

theorem map_node_ancestors (n : Located) : n.ancestors.map Located.node = n.above := by
  have hlineage : ∀ above trail, (lineage above trail).map Located.node = above := by
    intro above
    induction above with
    | nil => intro trail; rfl
    | cons a above ih => intro trail; simp [lineage, ih]
  exact hlineage n.above n.trail

/-- Some children of a node, the first of them being child `i`. -/
def childrenFrom (n : Located) (i : Nat) : List Node → List Located
  | [] => []
  | c :: cs => ⟨c, n.node :: n.above, i :: n.trail⟩ :: childrenFrom n (i + 1) cs

/-- The children of a node. -/
def children (n : Located) : List Located :=
  n.childrenFrom 0 n.node.children

/-- The number of nodes of some trees that are still to be visited. -/
def pending : List Located → Nat
  | [] => 0
  | n :: ns => n.node.size + pending ns

theorem pending_append (as bs : List Located) : pending (as ++ bs) = pending as + pending bs := by
  induction as with
  | nil => simp [pending]
  | cons a as ih => simp [pending, ih, Nat.add_assoc]

theorem pending_childrenFrom (n : Located) (i : Nat) (cs : List Node) :
    pending (n.childrenFrom i cs) = Node.sizeAll cs := by
  induction cs generalizing i with
  | nil => simp [childrenFrom, pending, Node.sizeAll]
  | cons c cs ih => simp [childrenFrom, pending, Node.sizeAll, ih]

/-- A tree has one node more than the trees below its root have together. -/
theorem size_eq_pending_children (n : Located) : n.node.size = 1 + pending n.children := by
  rw [Node.size_eq, children, pending_childrenFrom]

/-- Visits the nodes on a stack: the top one, and then its children before what lies below. -/
def visit : List Located → List Located
  | [] => []
  | n :: stack => n :: visit (n.children ++ stack)
termination_by stack => pending stack
decreasing_by
  -- The top of the stack is gone, and its children are one node less.
  simp only [pending_append, pending]
  have := size_eq_pending_children n
  omega

end Located

/-- All nodes of a tree, a parent before its children and children from left to right. -/
def Node.walk (root : Node) : List Located :=
  Located.visit [⟨root, [], []⟩]

end ArityFill
