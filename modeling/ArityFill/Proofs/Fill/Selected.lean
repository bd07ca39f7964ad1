import ArityFill.Document.Backend
import ArityFill.Fill.Basic
import ArityFill.Proofs.Text.Utf8
import Mathlib.Data.List.Basic

/-! # The references that are given arguments

    The walk over the references of a document keeps a progress, passes some references over, and
    stops at a fault. Here it is compared with a description that has no state: `Document.selected`
    filters the references, and `Document.filling` says what each of them is replaced by.

    - `fillReference_document` says what a step asks of a document,
    - `fillReference_ok` says what one step did, if it did not stop,
    - `fillReferences_ok` says what a whole walk did, if it did not stop,
    - `fillReferences_succeeds` says when a walk does not stop,
    - `fillDocument_eq_unchanged_iff` says when a document is left alone.
-/

namespace ArityFill

open Report (ArityError)

/-! ## The description -/

/-- How many arguments some errors ask for at a span: the first of those about it decides. -/
def arityAt (errors : List ArityError) (span : Span) : Nat :=
  match errors.filter fun e => e.covers span with
  | [] => 0
  | e :: _ => e.arity

/-- The argument list that consists of the same argument so many times. -/
def argumentList (argument : String) (arity : Nat) : String :=
  "<" ++ ", ".intercalate (List.replicate arity argument) ++ ">"

/-- Whether a node stands inside the operand of a `typeof`. -/
def Located.isWithinTypeOf (n : Located) : Bool :=
  n.above.any fun a => a.kind = "type_query"

namespace Document

/-- Whether a reference could be given arguments: it stands in no `typeof`, has none yet, and has a
    name. -/
def isOpen (d : Document) (n : Located) : Bool :=
  !n.isWithinTypeOf && !d.hasArguments n.node &&
    match d.nameOf? n.node with
    | .ok (some _) => true
    | _ => false

/-- Whether a reference is to be given arguments: it could be, and an error is about exactly its
    bytes. -/
def isSelected (d : Document) (errors : List ArityError) (n : Located) : Bool :=
  d.isOpen n && errors.any fun e => e.covers n.node.span

/-- The references that are to be given arguments, in the order of the walk. -/
def selected (d : Document) (errors : List ArityError) : List Located :=
  d.references.filter (d.isSelected errors)

/-- The bytes of the name of a reference. -/
def nameBytes (d : Document) (n : Node) : Bytes :=
  match nameNode? n with
  | some name => d.source.slice name.span
  | none => []

/-- The bytes of the arguments that a reference is given. -/
def argumentBytes (d : Document) (errors : List ArityError) (n : Located) : Bytes :=
  Utf8.ofString (argumentList d.placeholder (arityAt errors n.node.span))

/-- What becomes of a reference: its name, with arguments behind it. -/
def filling (d : Document) (errors : List ArityError) (n : Located) : Edit :=
  ⟨n.node.span, d.nameBytes n.node ++ d.argumentBytes errors n⟩

/-- Whether looking for the name of a reference does not stop the walk. -/
def NameReadable (d : Document) (n : Located) : Prop :=
  n.isWithinTypeOf = false → d.hasArguments n.node = false →
    ∃ name, d.nameOf? n.node = .ok name

end Document

/-! ## One step -/

section
variable {file : String} {errors : List ArityError}

theorem errorAt?_place (errors : List ArityError) (span : Span) :
    errorAt? errors span.place = errors.find? fun e => e.covers span :=
  rfl

theorem arityAt_of_errorAt? {span : Span} {e : ArityError}
    (h : errorAt? errors span.place = some e) : arityAt errors span = e.arity := by
  rw [errorAt?_place] at h
  unfold arityAt
  rw [← List.head?_filter] at h
  split
  · next hnil => simp [hnil] at h
  · next hcons => simp_all

theorem errorAt?_isSome (errors : List ArityError) (span : Span) :
    (errorAt? errors span.place).isSome = errors.any fun e => e.covers span := by
  rw [Bool.eq_iff_iff, errorAt?_place, List.find?_isSome, List.any_eq_true]

/-- A document answers every step upwards, so only the kinds of the ancestors matter. -/
theorem withinTypeOf_document (d : Document) (n : Located) :
    withinTypeOf d n = .ok n.isWithinTypeOf := by
  have hany : ∀ ns : List Located,
      (ns.map Except.ok).anyM (fun a => do SyntaxTree.isTypeOf d (← a)) =
        (.ok (ns.any Located.isTypeOf) : Except Fault Bool) := by
    intro ns
    induction ns with
    | nil => rfl
    | cons a ns ih =>
      rw [List.map_cons, List.anyM, ih, List.any_cons]
      cases h : a.isTypeOf <;> simp [SyntaxTree.isTypeOf, h, bind, Except.bind, pure, Except.pure]
  rw [withinTypeOf, Located.isWithinTypeOf, ← n.map_node_ancestors, List.any_map]
  exact hany n.ancestors

/-- A document gives its placeholder as often as it is asked for it. -/
theorem mapM_placeholder_document (d : Document) (arity : Nat) :
    (List.replicate arity (SyntaxTree.placeholder d)).mapM id =
      (.ok (List.replicate arity d.placeholder) : Except Fault (List String)) := by
  have hpure : (List.replicate arity d.placeholder).mapM (fun s => (pure s : Except Fault String)) =
      .ok (List.replicate arity d.placeholder) := by
    rw [List.mapM_pure, List.map_id']
    rfl
  show (List.replicate arity (.ok d.placeholder : Except Fault String)).mapM id = _
  rw [← List.map_replicate, List.mapM_map]
  exact hpure

/-- What a step asks of a document. -/
theorem fillReference_document (p : Progress Document) (n : Located) :
    fillReference file errors p n =
      if n.isWithinTypeOf then .ok p
      else if p.document.hasArguments n.node then .ok p
      else match p.document.nameOf? n.node with
        | .error f => .error f
        | .ok none => .ok p
        | .ok (some name) =>
          match errorAt? errors n.node.span.place with
          | none => .ok p
          | some e =>
            match p.document.application n.node
              (List.replicate e.arity p.document.placeholder) with
            | .error f => .error f
            | .ok text =>
              match p.document.replace n.node text with
              | .error f => .error f
              | .ok d =>
                .ok ⟨d, p.count + 1, p.events ++ [.given file name e.start e.stop e.arity]⟩ := by
  simp only [fillReference, withinTypeOf_document, mapM_placeholder_document,
    SyntaxTree.hasArguments, SyntaxTree.nameOf?, SyntaxTree.place, SyntaxTree.application,
    SyntaxTree.replace, bind, Except.bind, pure, Except.pure]
  -- What is left are the same matches, nested in another way.
  cases p.document.nameOf? n.node with
  | error f => rfl
  | ok name =>
    cases name with
    | none => rfl
    | some name =>
      cases errorAt? errors n.node.span.place with
      | none => rfl
      | some e =>
        dsimp only
        cases p.document.application n.node
            (List.replicate e.arity p.document.placeholder) with
        | error f => rfl
        | ok text =>
          dsimp only
          cases p.document.replace n.node text <;> rfl

/-- The text of an application is the text of the name with the arguments behind it. -/
theorem Document.application_ok {d : Document} {n : Node} {arity : Nat} {text : String}
    (h : d.application n (List.replicate arity d.placeholder) = .ok text) :
    Utf8.ofString text = d.nameBytes n ++ Utf8.ofString (argumentList d.placeholder arity) := by
  unfold Document.application at h
  split at h
  · cases h
  · next name hname =>
    unfold Document.textOf at h
    split at h
    · next t ht =>
      have hbytes := Utf8.toString?_eq_some_iff.mp ht
      simp only [Except.map, Except.ok.injEq] at h
      simp only [nameBytes, hname, hbytes, ← h, argumentList, Utf8.ofString_append,
        List.append_assoc]
    · cases h

/-- What a step did that did not stop the walk: it passed the reference over, or it asked for its
    filling. -/
theorem fillReference_ok {p p' : Progress Document} {n : Located}
    (h : fillReference file errors p n = .ok p') :
    p.document.NameReadable n ∧
    ((p.document.isSelected errors n = false ∧ p' = p) ∨
     (p.document.isSelected errors n = true ∧ p'.count = p.count + 1 ∧
      p'.document = { p.document with
        edits := p.document.edits ++ [p.document.filling errors n] })) := by
  rw [fillReference_document] at h
  split at h
  · -- Inside a `typeof` it is passed over before its name is read.
    next hwithin =>
    refine ⟨fun hno => absurd hwithin (by simp [hno]), .inl ⟨?_, by cases h; rfl⟩⟩
    simp [Document.isSelected, Document.isOpen, hwithin]
  · next hwithin =>
    split at h
    · -- So it is if it has arguments already.
      next hargs =>
      refine ⟨fun _ hno => absurd hargs (by simp [hno]), .inl ⟨?_, by cases h; rfl⟩⟩
      simp [Document.isSelected, Document.isOpen, hargs]
    · next hargs =>
      split at h
      · cases h
      · next hname =>
        refine ⟨fun _ _ => ⟨_, hname⟩, .inl ⟨?_, by cases h; rfl⟩⟩
        simp [Document.isSelected, Document.isOpen, hname]
      · next name hname =>
        refine ⟨fun _ _ => ⟨_, hname⟩, ?_⟩
        have hopen : p.document.isOpen n = true := by
          simp [Document.isOpen, hwithin, hargs, hname]
        have hsome := errorAt?_isSome errors n.node.span
        split at h
        · -- No error is about it.
          next hnone =>
          refine .inl ⟨?_, by cases h; rfl⟩
          rw [Document.isSelected, ← hsome, hnone, hopen]
          rfl
        · next e he =>
          split at h
          · cases h
          · next text htext =>
            split at h
            · cases h
            · -- The replacement was accepted, and it is the filling.
              next d hd =>
              cases h
              refine .inr ⟨?_, rfl, ?_⟩
              · rw [Document.isSelected, ← hsome, he, hopen]
                rfl
              · unfold Document.replace at hd
                split at hd
                · cases hd
                · cases hd
                  have hbytes := Document.application_ok htext
                  rw [← arityAt_of_errorAt? he] at hbytes
                  simp only [Document.filling, Document.argumentBytes, hbytes]

/-- A step does not stop if the name of the reference can be read and, in case that it is to be
    given arguments, so can the bytes of its name, and no earlier replacement overlaps it. -/
theorem fillReference_succeeds {p : Progress Document} {n : Located}
    (hname : p.document.NameReadable n)
    (htext : p.document.isSelected errors n = true →
      ∀ m, Document.nameNode? n.node = some m → ∃ t, p.document.textOf m = .ok t)
    (hfree : p.document.isSelected errors n = true →
      ∀ e ∈ p.document.edits, n.node.span.overlaps e.span = false) :
    ∃ p', fillReference file errors p n = .ok p' := by
  rw [fillReference_document]
  split
  · exact ⟨_, rfl⟩
  · next hwithin =>
    split
    · exact ⟨_, rfl⟩
    · next hargs =>
      obtain ⟨name, hn⟩ := hname (by simpa using hwithin) (by simpa using hargs)
      rw [hn]
      cases name with
      | none => exact ⟨_, rfl⟩
      | some name =>
        dsimp only
        split
        · exact ⟨_, rfl⟩
        · next e he =>
          have hsel : p.document.isSelected errors n = true := by
            have hsome := errorAt?_isSome errors n.node.span
            simp [Document.isSelected, Document.isOpen, hwithin, hargs, hn, ← hsome, he]
          -- A reference with a name has a node that names it.
          obtain ⟨m, hm⟩ : ∃ m, Document.nameNode? n.node = some m := by
            unfold Document.nameOf? at hn
            split at hn
            · cases hn
            · next m hm => exact ⟨m, hm⟩
          obtain ⟨t, ht⟩ := htext hsel m hm
          have happ : p.document.application n.node
              (List.replicate e.arity p.document.placeholder) =
              .ok (t ++ "<" ++ ", ".intercalate (List.replicate e.arity p.document.placeholder) ++
                ">") := by
            unfold Document.application
            rw [hm]
            dsimp only
            rw [ht]
            rfl
          have hnone : (p.document.edits.find? fun e => n.node.span.overlaps e.span) = none := by
            rw [List.find?_eq_none]
            intro e' he'
            simp [hfree hsel e' he']
          rw [happ]
          dsimp only
          unfold Document.replace
          rw [hnone]
          exact ⟨_, rfl⟩

/-! ## The whole walk -/

/-- What a walk did that did not stop: it asked for the fillings of the selected references, in
    their order, and counted them. -/
theorem fillReferences_ok {p p' : Progress Document} {ns : List Located}
    (h : fillReferences file errors p ns = (p', none)) :
    (∀ n ∈ ns, p.document.NameReadable n) ∧
    p'.count = p.count + (ns.filter (p.document.isSelected errors)).length ∧
    p'.document = { p.document with
      edits := p.document.edits ++
        (ns.filter (p.document.isSelected errors)).map (p.document.filling errors) } := by
  induction ns generalizing p with
  | nil =>
    cases h
    simp
  | cons n ns ih =>
    rw [fillReferences] at h
    split at h
    · next q hq =>
      obtain ⟨hname, hstep⟩ := fillReference_ok hq
      obtain ⟨hnames, hcount, hdoc⟩ := ih h
      rcases hstep with ⟨hsel, rfl⟩ | ⟨hsel, hqcount, hqdoc⟩
      · rw [List.filter_cons_of_neg (by simp [hsel])]
        refine ⟨?_, hcount, hdoc⟩
        intro m hm
        rcases List.mem_cons.mp hm with rfl | hm
        · exact hname
        · exact hnames m hm
      · -- Later references are judged alike, because only the replacements have changed.
        rw [List.filter_cons_of_pos (by simp [hsel])]
        rw [hqdoc] at hnames hcount hdoc
        refine ⟨?_, ?_, ?_⟩
        · intro m hm
          rcases List.mem_cons.mp hm with rfl | hm
          · exact hname
          · exact hnames m hm
        · rw [hcount, hqcount, List.length_cons]
          show p.count + 1 + (ns.filter (p.document.isSelected errors)).length = _
          omega
        · rw [hdoc, List.map_cons]
          show { p.document with
            edits := p.document.edits ++ [p.document.filling errors n] ++
              (ns.filter (p.document.isSelected errors)).map (p.document.filling errors) } = _
          rw [List.append_assoc, List.singleton_append]
    · cases h

/-- A walk does not stop if the names of all references can be read and the selected ones overlap
    neither each other nor an earlier replacement. -/
theorem fillReferences_succeeds {p : Progress Document} {ns : List Located}
    (hnames : ∀ n ∈ ns, p.document.NameReadable n)
    (htexts : ∀ n ∈ ns, p.document.isSelected errors n = true →
      ∀ m, Document.nameNode? n.node = some m → ∃ t, p.document.textOf m = .ok t)
    (hfree : ∀ n ∈ ns, p.document.isSelected errors n = true →
      ∀ e ∈ p.document.edits, n.node.span.overlaps e.span = false)
    (hpair : (ns.filter (p.document.isSelected errors)).Pairwise fun a b =>
      b.node.span.overlaps a.node.span = false) :
    ∃ p', fillReferences file errors p ns = (p', none) := by
  induction ns generalizing p with
  | nil => exact ⟨p, rfl⟩
  | cons n ns ih =>
    have hmem : n ∈ n :: ns := List.mem_cons_self
    obtain ⟨q, hq⟩ := @fillReference_succeeds file errors p n
      (hnames n hmem) (htexts n hmem) (hfree n hmem)
    rw [fillReferences, hq]
    dsimp only
    rcases (fillReference_ok hq).2 with ⟨hsel, rfl⟩ | ⟨hsel, _, hqdoc⟩
    · rw [List.filter_cons_of_neg (by simp [hsel])] at hpair
      exact ih (fun m hm => hnames m (List.mem_cons_of_mem _ hm))
        (fun m hm => htexts m (List.mem_cons_of_mem _ hm))
        (fun m hm => hfree m (List.mem_cons_of_mem _ hm)) hpair
    · rw [List.filter_cons_of_pos (by simp [hsel]), List.pairwise_cons] at hpair
      apply ih
      · rw [hqdoc]
        exact fun m hm => hnames m (List.mem_cons_of_mem _ hm)
      · rw [hqdoc]
        exact fun m hm => htexts m (List.mem_cons_of_mem _ hm)
      · rw [hqdoc]
        intro m hm hmsel e he
        rcases List.mem_append.mp he with he | he
        · exact hfree m (List.mem_cons_of_mem _ hm) hmsel e he
        · rw [List.mem_singleton] at he
          subst he
          exact hpair.1 m (List.mem_filter.mpr ⟨hm, hmsel⟩)
      · rw [hqdoc]
        exact hpair.2

/-! ## Documents -/

theorem fillDocument_eq (d : Document) :
    fillDocument file errors d =
      match fillReferences file errors ⟨d, 0, []⟩ d.references with
      | (p, none) => (p.finish, p.events)
      | (p, some f) => (.error f, p.events) := by
  simp only [fillDocument, SyntaxTree.references]
  rcases fillReferences file errors ⟨d, 0, []⟩ d.references with ⟨p, _ | f⟩ <;> rfl

/-- A document that is filled in had readable names and comes out with one replacement for each
    selected reference. -/
theorem fillDocument_ok {d : Document} {filled : Filled}
    (h : (fillDocument file errors d).1 = .ok filled) :
    (∀ n ∈ d.references, d.NameReadable n) ∧ filled.count = (d.selected errors).length ∧
    (filled.source = none ↔ d.selected errors = []) := by
  rw [fillDocument_eq] at h
  split at h
  · next p hp =>
    obtain ⟨hnames, hcount, _⟩ := fillReferences_ok hp
    have hsel : p.count = (d.selected errors).length := by
      rw [hcount]
      simp [Document.selected]
    refine ⟨hnames, ?_⟩
    simp only [Progress.finish] at h
    split at h
    · next hzero =>
      cases h
      rw [hsel] at hzero
      simp [Filled.unchanged, List.length_eq_zero_iff.mp hzero]
    · next hpos =>
      have hne : d.selected errors ≠ [] := by
        intro hnil
        rw [hnil] at hsel
        exact hpos hsel
      split at h
      · cases h
        exact ⟨hsel, by simp [hne]⟩
      · cases h
  · cases h

/-- A document is left alone exactly if no name is unreadable and no reference is selected. -/
theorem fillDocument_eq_unchanged_iff {d : Document} :
    (fillDocument file errors d).1 = .ok .unchanged ↔
      (∀ n ∈ d.references, d.NameReadable n) ∧ d.selected errors = [] := by
  constructor
  · intro h
    obtain ⟨hnames, _, hsource⟩ := fillDocument_ok h
    exact ⟨hnames, hsource.mp rfl⟩
  · rintro ⟨hnames, hsel⟩
    have hskip : ∀ n ∈ d.references, d.isSelected errors n = false := by
      intro n hn
      have := List.filter_eq_nil_iff.mp hsel n hn
      simpa using this
    have hnone : ∀ n ∈ d.references, ∀ P : Prop, d.isSelected errors n = true → P := by
      intro n hn P hyes
      rw [hskip n hn] at hyes
      cases hyes
    obtain ⟨p, hp⟩ := @fillReferences_succeeds file errors ⟨d, 0, []⟩ d.references hnames
      (fun n hn => hnone n hn _) (fun n hn => hnone n hn _) (by
        show (d.selected errors).Pairwise _
        rw [hsel]
        exact List.Pairwise.nil)
    obtain ⟨_, hcount, _⟩ := fillReferences_ok hp
    have hzero : p.count = 0 := by
      rw [hcount]
      simpa [Document.selected] using hsel
    simp [fillDocument_eq, hp, Progress.finish, hzero]

end

end ArityFill
