import ArityFill.Tree.Table

/-! # Tables in pre-order

    The table of a tree in pre-order lists a node and then the tables of its children one after the
    other (`Node.rows`). Which tables are of this form can be told from the parents alone: each row
    belongs below the row before it or below a row above that one (`Row.InPreorder`).

    - `ofRows?_rows`: a tree is read back from its table.
    - `Row.inPreorder_iff`: the tables in pre-order are the tables that trees have.

    The rows of a tree are an interval of the table, and both proofs go along these intervals: the
    tree of row `i` ends before row `i + n.size`.
-/

namespace ArityFill

namespace Node

mutual

/-- The table of a tree in pre-order, if its root is row `i` and belongs below another row or below
    none. -/
def rowsFrom (parent : Option Nat) (i : Nat) : Node → List Row
  | ⟨kind, span, named, field, children⟩ =>
    ⟨parent, kind, span, named, field⟩ :: rowsFromAll i (i + 1) children

/-- The tables of the children of a row, one after the other from row `i` on. -/
def rowsFromAll (parent : Nat) (i : Nat) : List Node → List Row
  | [] => []
  | n :: ns => rowsFrom (some parent) i n ++ rowsFromAll parent (i + n.size) ns

end

/-- The table of a tree in pre-order. -/
def rows (root : Node) : List Row :=
  rowsFrom none 0 root

/-- Behind row `i` come the rows of its children. -/
theorem add_size_mk (i : Nat) (kind : String) (span : Span) (named : Bool) (field : Option Field)
    (children : List Node) :
    i + size ⟨kind, span, named, field, children⟩ = i + 1 + sizeAll children := by
  rw [size]
  omega

theorem add_size_toNode (i : Nat) (r : Row) (children : List Node) :
    i + (r.toNode children).size = i + 1 + sizeAll children :=
  add_size_mk i _ _ _ _ children

theorem add_sizeAll_cons (i : Nat) (n : Node) (ns : List Node) :
    i + sizeAll (n :: ns) = i + n.size + sizeAll ns := by
  rw [sizeAll]
  omega

theorem rowsFrom_toNode (i : Nat) (r : Row) (children : List Node) :
    rowsFrom r.parent i (r.toNode children) = r :: rowsFromAll i (i + 1) children := by
  rw [Row.toNode, rowsFrom]

theorem rowsFromAll_toNode_cons {p : Nat} {r : Row} (hparent : r.parent = some p) (i : Nat)
    (children ns : List Node) :
    rowsFromAll p i (r.toNode children :: ns) =
      (r :: rowsFromAll i (i + 1) children) ++
        rowsFromAll p (i + 1 + sizeAll children) ns := by
  rw [rowsFromAll, ← hparent, rowsFrom_toNode, add_size_toNode]

/-! ## Reading a table back -/

/-- Trees that belong below rows before row `i`, or below none. -/
def BelongBefore (i : Nat) (trees : List (Option Nat × Node)) : Prop :=
  ∀ t ∈ trees, ∀ k, t.1 = some k → k < i

/-- A row takes the trees of its children, and leaves those that belong before it. -/
theorem forest_cons {i : Nat} {r : Row} {rows : List Row} {children : List Node}
    {others : List (Option Nat × Node)}
    (hlater : Row.forest (i + 1) rows = children.map (fun n => (some i, n)) ++ others)
    (hothers : BelongBefore i others) :
    Row.forest i (r :: rows) = (r.parent, r.toNode children) :: others := by
  have hleave : ∀ t ∈ others, t.1 ≠ some i := by
    intro t ht hsame
    exact Nat.lt_irrefl i (hothers t ht i hsame)
  have hown : ((children.map fun n => (some i, n)) ++ others).filter (fun t => t.1 = some i) =
      children.map fun n => (some i, n) := by
    rw [List.filter_append, List.filter_eq_self.mpr (by simp),
      List.filter_eq_nil_iff.mpr (by simpa using hleave), List.append_nil]
  have hrest : ((children.map fun n => (some i, n)) ++ others).filter (fun t => t.1 ≠ some i) =
      others := by
    rw [List.filter_append, List.filter_eq_nil_iff.mpr (by simp),
      List.filter_eq_self.mpr (by simpa using hleave), List.nil_append]
  have hback : (children.map fun n => (some i, n)).map Prod.snd = children := by
    rw [List.map_map]
    exact List.map_id children
  rw [Row.forest, hlater, hown, hrest, hback]

mutual

/-- A tree is read back from the rows of its table, if what is read from the later rows belongs
    before it. -/
theorem forest_rowsFrom (parent : Option Nat) (i : Nat) (rest : List Row) :
    (n : Node) → BelongBefore i (Row.forest (i + n.size) rest) →
      Row.forest i (rowsFrom parent i n ++ rest) = (parent, n) :: Row.forest (i + n.size) rest
  | ⟨kind, span, named, field, children⟩, hrest => by
    rw [add_size_mk] at hrest ⊢
    have hbefore : BelongBefore (i + 1) (Row.forest (i + 1 + sizeAll children) rest) := by
      intro t ht k hk
      exact Nat.lt_succ_of_lt (hrest t ht k hk)
    rw [rowsFrom, List.cons_append]
    exact forest_cons
      (forest_rowsFromAll i (i + 1) rest children (Nat.lt_succ_self i) hbefore) hrest

/-- Some trees below a row are read back one after the other. -/
theorem forest_rowsFromAll (parent i : Nat) (rest : List Row) :
    (ns : List Node) → parent < i → BelongBefore i (Row.forest (i + sizeAll ns) rest) →
      Row.forest i (rowsFromAll parent i ns ++ rest) =
        ns.map (fun n => (some parent, n)) ++ Row.forest (i + sizeAll ns) rest
  | [], _, _ => by
    rw [rowsFromAll, sizeAll]
    rfl
  | n :: ns, hparent, hrest => by
    rw [add_sizeAll_cons] at hrest ⊢
    have hbefore : BelongBefore (i + n.size) (Row.forest (i + n.size + sizeAll ns) rest) := by
      intro t ht k hk
      exact Nat.lt_of_lt_of_le (hrest t ht k hk) (Nat.le_add_right i n.size)
    have hothers := forest_rowsFromAll parent (i + n.size) rest ns (by omega) hbefore
    have hafter : BelongBefore i
        (Row.forest (i + n.size) (rowsFromAll parent (i + n.size) ns ++ rest)) := by
      rw [hothers]
      intro t ht k hk
      rcases List.mem_append.mp ht with hsibling | hlater
      · obtain ⟨m, _, hm⟩ := List.mem_map.mp hsibling
        rw [← hm, Option.some.injEq] at hk
        rw [← hk]
        exact hparent
      · exact hrest t hlater k hk
    rw [rowsFromAll, List.append_assoc, forest_rowsFrom (some parent) i _ n hafter, hothers]
    rfl

end

/-- A tree is read back from its table. -/
theorem ofRows?_rows (root : Node) : ofRows? root.rows = some root := by
  have hforest := forest_rowsFrom none 0 [] root (by intro t ht; cases ht)
  rw [List.append_nil] at hforest
  rw [ofRows?, rows, hforest]
  rfl

end Node

/-! ## Telling such tables by their parents -/

namespace Row

/-- Whether some rows continue a table in pre-order, the first of them being row `i`: each belongs
    below the row before it or below a row above that one. `opened` are these rows, from the row
    before on upwards. -/
def Continue : List Nat → Nat → List Row → Prop
  | _, _, [] => True
  | opened, i, r :: rows =>
    ∃ closed p rest, opened = closed ++ p :: rest ∧ r.parent = some p ∧
      Continue (i :: p :: rest) (i + 1) rows

/-- Whether a table is in pre-order: the first row belongs below none, and each later one below the
    row before it or below a row above that one. -/
def InPreorder : List Row → Prop
  | [] => False
  | r :: rows => r.parent = none ∧ Continue [0] 1 rows

/-- Another row may be open. -/
theorem Continue.opened_cons {opened : List Nat} {i : Nat} {rows : List Row}
    (h : Continue opened i rows) (k : Nat) : Continue (k :: opened) i rows := by
  cases rows with
  | nil => exact trivial
  | cons r rows =>
    obtain ⟨closed, p, rest, hopened, hparent, hrows⟩ := h
    exact ⟨k :: closed, p, rest, by rw [hopened, List.cons_append], hparent, hrows⟩

/-- Rows begin with the tables of some trees below the last of the open rows, and go on below the
    rows above it. -/
theorem Continue.exists_rowsFromAll {p i : Nat} {opened : List Nat} {rows : List Row}
    (h : Continue (p :: opened) i rows) :
    ∃ ns later, rows = Node.rowsFromAll p i ns ++ later ∧
      Continue opened (i + Node.sizeAll ns) later := by
  -- On the number of rows, because the rows of the first child come before those of the others.
  induction hlength : rows.length using Nat.strongRecOn generalizing p i opened rows with
  | _ length ih =>
    cases rows with
    | nil => exact ⟨[], [], rfl, trivial⟩
    | cons r rows =>
      obtain ⟨closed, q, rest, hopened, hparent, hrows⟩ := h
      cases closed with
      | nil =>
        obtain ⟨hq, hrest⟩ := List.cons.inj hopened
        subst hq hrest
        obtain ⟨children, others, hchildren, hothers⟩ := ih rows.length
          (by rw [← hlength, List.length_cons]; omega) hrows rfl
        obtain ⟨ns, later, hns, hlater⟩ := ih others.length
          (by rw [← hlength, List.length_cons, hchildren, List.length_append]; omega) hothers rfl
        have hsize : i + Node.sizeAll (r.toNode children :: ns) =
            i + 1 + Node.sizeAll children + Node.sizeAll ns := by
          rw [Node.add_sizeAll_cons, Node.add_size_toNode]
        refine ⟨r.toNode children :: ns, later, ?_, hsize ▸ hlater⟩
        rw [Node.rowsFromAll_toNode_cons hparent, List.append_assoc, List.cons_append, ← hns,
          ← hchildren]
      | cons k closed =>
        -- The first row belongs below a row further up, so there is no child here.
        obtain ⟨_, hrest⟩ := List.cons.inj hopened
        exact ⟨[], r :: rows, rfl, closed, q, rest, hrest, hparent, hrows⟩

end Row

namespace Node

mutual

/-- After the rows of a tree the row that it belongs below is still open. -/
theorem continue_rowsFrom (p i : Nat) (opened : List Nat) (later : List Row) :
    (n : Node) → Row.Continue (p :: opened) (i + n.size) later →
      Row.Continue (p :: opened) i (rowsFrom (some p) i n ++ later)
  | ⟨kind, span, named, field, children⟩, hlater => by
    rw [add_size_mk] at hlater
    rw [rowsFrom, List.cons_append]
    exact ⟨[], p, opened, rfl, rfl, continue_rowsFromAll i (i + 1) (p :: opened) later children
      hlater⟩

/-- After the rows of all its children a row need not be open any more. -/
theorem continue_rowsFromAll (p i : Nat) (opened : List Nat) (later : List Row) :
    (ns : List Node) → Row.Continue opened (i + sizeAll ns) later →
      Row.Continue (p :: opened) i (rowsFromAll p i ns ++ later)
  | [], hlater => by
    rw [rowsFromAll]
    exact hlater.opened_cons p
  | n :: ns, hlater => by
    rw [add_sizeAll_cons] at hlater
    rw [rowsFromAll, List.append_assoc]
    exact continue_rowsFrom p i opened _ n
      (continue_rowsFromAll p (i + n.size) opened later ns hlater)

end

end Node

/-- The tables in pre-order are the tables that trees have. -/
theorem Row.inPreorder_iff {rows : List Row} :
    InPreorder rows ↔ ∃ root : Node, root.rows = rows := by
  constructor
  · intro h
    cases rows with
    | nil => exact h.elim
    | cons r rows =>
      obtain ⟨hparent, hrows⟩ := h
      obtain ⟨children, later, hchildren, hlater⟩ := hrows.exists_rowsFromAll
      cases later with
      | nil =>
        refine ⟨r.toNode children, ?_⟩
        rw [hchildren, List.append_nil, Node.rows, ← hparent, Node.rowsFrom_toNode]
      | cons r' later =>
        -- No row is open any more.
        obtain ⟨closed, p, rest, hopened, _⟩ := hlater
        simp at hopened
  · intro h
    obtain ⟨⟨kind, span, named, field, children⟩, hroot⟩ := h
    subst hroot
    have hrows := Node.continue_rowsFromAll 0 1 [] [] children trivial
    rw [List.append_nil] at hrows
    rw [Node.rows, Node.rowsFrom]
    exact ⟨rfl, hrows⟩

end ArityFill
