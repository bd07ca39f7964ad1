import ArityFill.Proofs.Document.Patch
import ArityFill.Proofs.Fill.Selected
import ArityFill.Proofs.Tree.Walk

/-! # What filling in does to a text

    If the nodes of a tree cover whole characters, and the references that are selected cover bytes
    of their own, then filling in does exactly what a reader of the report would expect: each
    selected reference is replaced by its name with arguments behind it, and every other byte stays.

    The walk asks for replacements in the order of the tree, and they are made from the end of the
    text. Both orders are brought together by `byStart`, the selected references from left to right.
-/

namespace ArityFill

open Report (ArityError Index)

/-! ## Trees that cover whole characters -/

/-- A span of whole characters of a text. -/
structure Span.Fits (bs : Bytes) (s : Span) : Prop where
  /-- It does not end before it begins. -/
  le : s.start ≤ s.stop
  /-- It begins between two characters. -/
  start : Utf8.Boundary bs s.start
  /-- It ends between two characters. -/
  stop : Utf8.Boundary bs s.stop

instance (bs : Bytes) (s : Span) : Decidable (s.Fits bs) :=
  decidable_of_iff (s.start ≤ s.stop ∧ Utf8.Boundary bs s.start ∧ Utf8.Boundary bs s.stop)
    ⟨fun ⟨h, h', h''⟩ => ⟨h, h', h''⟩, fun ⟨h, h', h''⟩ => ⟨h, h', h''⟩⟩

/-- Every node of a document covers whole characters of its source. -/
def Document.Aligned (d : Document) : Prop :=
  ∀ n ∈ d.root.walk, n.node.span.Fits d.source

instance (d : Document) : Decidable d.Aligned :=
  inferInstanceAs (Decidable (∀ n ∈ d.root.walk, n.node.span.Fits d.source))

/-- References from left to right. -/
def byStart (ns : List Located) : List Located :=
  ns.mergeSort fun a b => a.node.span.start ≤ b.node.span.start

namespace Document

/-- Whole characters are text. -/
theorem textOf_of_fits {d : Document} {n : Node} (h : n.span.Fits d.source) :
    ∃ t, d.textOf n = .ok t := by
  obtain ⟨t, ht⟩ := Utf8.isText_iff_toString?.mp (h.start.isText_slice h.stop h.le)
  exact ⟨t, by simp [textOf, ht]⟩

theorem mem_walk_of_mem_references {d : Document} {n : Located} (h : n ∈ d.references) :
    n ∈ d.root.walk :=
  (List.mem_filter.mp h).1

/-- The node that names a node of a tree is a node of the tree. -/
theorem walk_nameNode? {d : Document} {n : Located} (hn : n ∈ d.root.walk) {m : Node}
    (hm : nameNode? n.node = some m) : ∃ l ∈ d.root.walk, l.node = m := by
  unfold nameNode? at hm
  split at hm
  · exact Node.walk_child? hn hm
  · split at hm
    · cases hm
      exact ⟨n, hn, rfl⟩
    · cases hm

/-- In an aligned document every name can be read. -/
theorem nameOf?_of_aligned {d : Document} (hd : d.Aligned) {n : Located} (hn : n ∈ d.root.walk) :
    ∃ name, d.nameOf? n.node = .ok name := by
  unfold nameOf?
  split
  · exact ⟨_, rfl⟩
  · next m hm =>
    obtain ⟨l, hl, rfl⟩ := walk_nameNode? hn hm
    split
    · obtain ⟨t, ht⟩ := textOf_of_fits (hd l hl)
      exact ⟨some t, by rw [ht]; rfl⟩
    · split
      · -- A nested name is read off two of its children.
        split
        · next qualifier ident hq hi =>
          obtain ⟨lq, hlq, rfl⟩ := Node.walk_child? hl hq
          obtain ⟨li, hli, rfl⟩ := Node.walk_child? hl hi
          obtain ⟨q, hq⟩ := textOf_of_fits (hd lq hlq)
          obtain ⟨i, hi⟩ := textOf_of_fits (hd li hli)
          split
          · rw [hq, hi]
            exact ⟨_, rfl⟩
          · exact ⟨_, rfl⟩
        · exact ⟨_, rfl⟩
      · exact ⟨_, rfl⟩

/-- In an aligned document the bytes of every name are text. -/
theorem isText_nameBytes {d : Document} (hd : d.Aligned) {n : Located} (hn : n ∈ d.root.walk) :
    Utf8.IsText (d.nameBytes n.node) := by
  unfold nameBytes
  split
  · next m hm =>
    obtain ⟨l, hl, rfl⟩ := walk_nameNode? hn hm
    have hfit := hd l hl
    exact hfit.start.isText_slice hfit.stop hfit.le
  · exact Utf8.isText_ofString ""

/-! ## The selected references from left to right -/

theorem mem_byStart {ns : List Located} {n : Located} : n ∈ byStart ns ↔ n ∈ ns :=
  List.mem_mergeSort

/-- References that hold bytes and share none stand one after the other from left to right. -/
theorem byStart_pairwise {ns : List Located}
    (hne : ∀ n ∈ ns, n.node.span.start < n.node.span.stop)
    (hdis : ns.Pairwise fun a b => a.node.span.Disjoint b.node.span) :
    (byStart ns).Pairwise fun a b => a.node.span.stop ≤ b.node.span.start := by
  have hsorted : (byStart ns).Pairwise fun a b =>
      decide (a.node.span.start ≤ b.node.span.start) = true := by
    apply List.pairwise_mergeSort
    · intro a b c hab hbc
      simp only [decide_eq_true_eq] at *
      omega
    · intro a b
      simp only [Bool.or_eq_true, decide_eq_true_eq]
      omega
  have hapart : (byStart ns).Pairwise fun a b => a.node.span.Disjoint b.node.span :=
    (List.mergeSort_perm ns _).symm.pairwise hdis fun h => h.symm
  refine (hsorted.and hapart).imp_of_mem ?_
  rintro a b _ hb ⟨hle, hab⟩
  -- Of the two ways to be apart, the order of the starts leaves only one.
  have hb' := hne b (mem_byStart.mp hb)
  simp only [decide_eq_true_eq] at hle
  rcases hab with hab | hab
  · exact hab
  · omega

/-- The fillings of the selected references stand in order. -/
theorem fillings_inOrder {d : Document} {errors : List ArityError} (hd : d.Aligned)
    (hne : ∀ n ∈ d.selected errors, n.node.span.start < n.node.span.stop)
    (hdis : (d.selected errors).Pairwise fun a b => a.node.span.Disjoint b.node.span)
    {f : Located → Edit} (hf : ∀ n, (f n).span = n.node.span) :
    InOrder d.source.length 0 ((byStart (d.selected errors)).map f) := by
  apply inOrder_of_pairwise (Nat.zero_le _) (fun _ _ => Nat.zero_le _)
  · intro e he
    obtain ⟨n, hn, rfl⟩ := List.mem_map.mp he
    have hfit := hd n (mem_walk_of_mem_references (List.mem_filter.mp (mem_byStart.mp hn)).1)
    rw [hf]
    exact ⟨hfit.le, hfit.stop.le_length⟩
  · rw [List.pairwise_map]
    simpa only [hf] using byStart_pairwise hne hdis

section
variable {d : Document} {errors : List ArityError} (hd : d.Aligned)
  (hne : ∀ n ∈ d.selected errors, n.node.span.start < n.node.span.stop)
  (hdis : (d.selected errors).Pairwise fun a b => a.node.span.Disjoint b.node.span)
include hd hdis

/-- The walk over an aligned document does not stop if the selected references share no bytes. -/
theorem fillReferences_of_aligned (file : String) (hedits : d.edits = []) :
    ∃ p, fillReferences file errors ⟨d, 0, []⟩ d.references = (p, none) := by
  apply fillReferences_succeeds
  · intro n hn _ _
    exact nameOf?_of_aligned hd (mem_walk_of_mem_references hn)
  · intro n hn _ m hm
    obtain ⟨l, hl, rfl⟩ := walk_nameNode? (mem_walk_of_mem_references hn) hm
    exact textOf_of_fits (hd l hl)
  · intro n _ _ e he
    rw [show (⟨d, 0, []⟩ : Progress Document).document.edits = [] from hedits] at he
    cases he
  · exact hdis.imp fun h => Span.overlaps_eq_false_of_disjoint h.symm

include hne

/-- Making the fillings from the end of the source gives the source with all of them in place. -/
theorem edited_fillings {d' : Document} (hsource : d'.source = d.source)
    (hedits : d'.edits = (d.selected errors).map (d.filling errors)) :
    d'.edited = d.source.patch ((byStart (d.selected errors)).map (d.filling errors)) := by
  rw [← hsource]
  refine edited_eq_patch ?_ ?_ ?_
  · rw [hedits]
    exact (List.mergeSort_perm _ _).map _
  · intro e he
    obtain ⟨n, hn, rfl⟩ := List.mem_map.mp he
    have hsel := mem_byStart.mp hn
    have hfit := hd n (mem_walk_of_mem_references (List.mem_filter.mp hsel).1)
    rw [hsource]
    exact ⟨hne n hsel, hfit.stop.le_length⟩
  · rw [List.pairwise_map]
    exact byStart_pairwise hne hdis

/-- The source with all fillings in place is text. -/
theorem isText_patch_fillings (hsource : Utf8.IsText d.source) :
    Utf8.IsText (d.source.patch ((byStart (d.selected errors)).map (d.filling errors))) := by
  apply isText_patchFrom (fillings_inOrder hd hne hdis fun _ => rfl) (Utf8.Boundary.zero hsource)
  intro e he
  obtain ⟨n, hn, rfl⟩ := List.mem_map.mp he
  have hwalk := mem_walk_of_mem_references (List.mem_filter.mp (mem_byStart.mp hn)).1
  have hfit := hd n hwalk
  exact ⟨hfit.start, hfit.stop, (isText_nameBytes hd hwalk).append (Utf8.isText_ofString _)⟩

/-- A document whose selected references hold bytes of their own is filled in, and the new text is
    the ordered splice of their fillings. -/
theorem fillDocument_splice {file : String} (hsource : Utf8.IsText d.source)
    (hedits : d.edits = []) :
    ∃ filled, (fillDocument file errors d).1 = .ok filled ∧
      ∀ text, filled.source = some text →
        Utf8.ofString text =
          d.source.patch ((byStart (d.selected errors)).map (d.filling errors)) := by
  obtain ⟨p, hp⟩ := fillReferences_of_aligned hd hdis file hedits
  obtain ⟨_, _, hdoc⟩ := fillReferences_ok hp
  have hpatch := @edited_fillings d errors hd hne hdis p.document (by rw [hdoc]) (by
    rw [hdoc]
    show d.edits ++ _ = _
    rw [hedits, List.nil_append]
    rfl)
  obtain ⟨text, htext⟩ := Utf8.isText_iff_toString?.mp (isText_patch_fillings hd hne hdis hsource)
  simp only [fillDocument_eq, hp, Progress.finish, SyntaxTree.toSource]
  split
  · exact ⟨.unchanged, rfl, fun _ h => by cases h⟩
  · refine ⟨⟨some text, p.count⟩, by simp [toSource, hpatch, htext], ?_⟩
    intro text' h
    cases h
    exact (Utf8.toString?_eq_some_iff.mp htext).symm

end

/-- A selected reference that is no applied type is its own name, so its filling only adds
    arguments behind it. -/
theorem filling_eq_behind {d : Document} {errors : List ArityError} {n : Located}
    (hsel : n ∈ d.selected errors) (hkind : n.node.kind ≠ "generic_type") :
    d.filling errors n = Edit.behind d.source ⟨n.node.span, d.argumentBytes errors n⟩ := by
  have hopen : d.isOpen n = true := by
    have := (List.mem_filter.mp hsel).2
    simp only [isSelected, Bool.and_eq_true] at this
    exact this.1
  have hname : nameNode? n.node = some n.node := by
    have hnamed : nameNode? n.node ≠ none := by
      intro hnone
      simp [isOpen, nameOf?, hnone] at hopen
    unfold nameNode? at hnamed ⊢
    rw [if_neg hkind] at hnamed ⊢
    split at hnamed
    · next hplain => rw [if_pos hplain]
    · exact absurd rfl hnamed
  simp only [filling, Edit.behind, nameBytes, hname]

end Document

/-! ## The text that comes out -/

theorem Document.isText_ofSource (parser : Parser) (dialect : Dialect) (source : String) :
    Utf8.IsText (Document.ofSource parser dialect source).source :=
  Utf8.isText_ofString source

/-- A file that is looked at is filled in with the errors that the index has for it. -/
theorem fill_of_eligible {parser : Parser} {dialect : Dialect} {cwd : Location}
    {path source : String} {index : Index} {o : Options} {errors : List ArityError}
    (heligible : isEligible cwd path source index o = .ok true)
    (herrors : index.recordsFor cwd path = .ok errors) :
    fill (dialect.backend parser) cwd path source index o =
      fillDocument path errors (Document.ofSource parser dialect source) := by
  simp only [fill, heligible, herrors]
  rfl

/-- **Filling in replaces exactly the selected references.** Let the file be looked at, let the
    nodes of its tree cover whole characters, and let the selected references hold bytes and share
    none. Then filling in succeeds and counts the selected references; there is no new text exactly
    if there are none; and else the new text is the source in which each selected reference is
    replaced by its name with arguments behind it, as many as the first error about it asks for. If
    no selected reference is an applied type, then the argument lists stand in the new text one
    after the other, and without them it is the source again. -/
theorem fill_replaces_selected (parser : Parser) (dialect : Dialect) (cwd : Location)
    (path source : String) (index : Index) (o : Options) (errors : List ArityError) :
    let d := Document.ofSource parser dialect source
    let chosen := byStart (d.selected errors)
    isEligible cwd path source index o = .ok true →
    index.recordsFor cwd path = .ok errors →
    d.Aligned →
    (∀ n ∈ d.selected errors, n.node.span.start < n.node.span.stop) →
    ((d.selected errors).Pairwise fun a b => a.node.span.Disjoint b.node.span) →
    ∃ filled, (fill (dialect.backend parser) cwd path source index o).1 = .ok filled ∧
      filled.count = (d.selected errors).length ∧
      (filled.source = none ↔ d.selected errors = []) ∧
      ∀ text, filled.source = some text →
        Utf8.ofString text = (Utf8.ofString source).patch (chosen.map (d.filling errors)) ∧
        ((∀ n ∈ d.selected errors, n.node.kind ≠ "generic_type") →
          ∃ lists : List Span, lists.Pairwise (fun a b => a.stop ≤ b.start) ∧
            lists.map (Utf8.ofString text).slice = chosen.map (d.argumentBytes errors) ∧
            (Utf8.ofString text).without lists = Utf8.ofString source) := by
  intro d chosen heligible herrors haligned hne hdis
  obtain ⟨filled, hfilled, htext⟩ := Document.fillDocument_splice haligned hne hdis
    (Document.isText_ofSource parser dialect source) rfl
  obtain ⟨_, hcount, hnone⟩ := fillDocument_ok hfilled
  rw [fill_of_eligible heligible herrors]
  refine ⟨filled, hfilled, hcount, hnone, ?_⟩
  intro text hsome
  have hpatch := htext text hsome
  refine ⟨hpatch, ?_⟩
  intro hkinds
  let insertion : Located → Edit := fun n => ⟨n.node.span, d.argumentBytes errors n⟩
  have hin := Document.fillings_inOrder haligned hne hdis (f := insertion) fun _ => rfl
  -- Without applied types the fillings are insertions.
  have hbehind : chosen.map (d.filling errors) =
      (chosen.map insertion).map (Edit.behind d.source) := by
    rw [List.map_map]
    apply List.map_congr_left
    intro n hn
    have hsel := Document.mem_byStart.mp hn
    exact Document.filling_eq_behind hsel (hkinds n hsel)
  have hout : Utf8.ofString text =
      [] ++ d.source.patchFrom 0 ((chosen.map insertion).map (Edit.behind d.source)) := by
    rw [List.nil_append, ← hbehind]
    exact hpatch
  obtain ⟨hlists, hrestored⟩ := @insertions_spec d.source 0 _ hin [] 0 rfl
  rw [← hout] at hlists hrestored
  refine ⟨insertionSpans 0 (chosen.map insertion), (insertionSpans_pairwise hin).1, ?_, ?_⟩
  · rw [hlists, List.map_map]
    rfl
  · exact hrestored

/-- The new text as such, if the walk meets the selected references from left to right. -/
theorem fill_eq_some {parser : Parser} {dialect : Dialect} {cwd : Location}
    {path source source' : String} {index : Index} {o : Options} {count : Nat}
    (errors : List ArityError) {d : Document} (hd : d = Document.ofSource parser dialect source)
    (heligible : isEligible cwd path source index o = .ok true)
    (herrors : index.recordsFor cwd path = .ok errors) (haligned : d.Aligned)
    (hlength : (d.selected errors).length = count) (hsome : 0 < count)
    (hne : ∀ n ∈ d.selected errors, n.node.span.start < n.node.span.stop)
    (hord : (d.selected errors).Pairwise fun a b => a.node.span.stop ≤ b.node.span.start)
    (htext : Utf8.ofString source' = d.source.patch ((d.selected errors).map (d.filling errors))) :
    (fill (dialect.backend parser) cwd path source index o).1 = .ok ⟨some source', count⟩ := by
  subst hd
  obtain ⟨filled, hfilled, hpatch⟩ := Document.fillDocument_splice haligned hne
    (hord.imp fun h => Or.inl h) (Document.isText_ofSource parser dialect source) rfl
  obtain ⟨_, hcount, hnone⟩ := fillDocument_ok hfilled
  have hchanged : filled.source ≠ none := by
    intro h
    rw [hnone.mp h] at hlength
    exact absurd hlength (Nat.ne_of_lt hsome)
  obtain ⟨text, hsource⟩ := Option.ne_none_iff_exists'.mp hchanged
  have hsorted : byStart ((Document.ofSource parser dialect source).selected errors) =
      (Document.ofSource parser dialect source).selected errors := by
    apply List.mergeSort_of_pairwise
    refine hord.imp_of_mem fun {a b} ha _ hab => ?_
    have := hne a ha
    simp only [decide_eq_true_eq]
    omega
  have hbytes := hpatch text hsource
  rw [hsorted, ← htext] at hbytes
  have hsame : text = source' := by
    have := congrArg Utf8.toString? hbytes
    simpa using this
  rw [fill_of_eligible heligible herrors, hfilled]
  obtain ⟨new, n⟩ := filled
  cases hsource
  cases hcount
  rw [hsame, hlength]

/-! ## A tuple of three names -/

namespace Sample

/-- A node without children. -/
def leaf (kind : String) (start stop : Nat) (named : Bool) (field : Option Field) : Node :=
  ⟨kind, ⟨start, stop⟩, named, field, []⟩

/-- A name that stands for a type. -/
def typeName (start stop : Nat) (field : Option Field) : Node :=
  leaf "type_identifier" start stop true field

/-- The tree of an alias `type T = [...]; // @flow` for a tuple of three types. -/
def tupleAlias (first second third : Node) : Node :=
  let close := third.span.stop
  ⟨"program", ⟨0, close + 11⟩, true, none,
    [⟨"type_alias_declaration", ⟨0, close + 2⟩, true, none,
      [leaf "type" 0 4 false none, typeName 5 6 (some .name), leaf "=" 7 8 false none,
       ⟨"tuple_type", ⟨9, close + 1⟩, true, none,
        [leaf "[" 9 10 false none, first,
         leaf "," first.span.stop (first.span.stop + 1) false none, second,
         leaf "," second.span.stop (second.span.stop + 1) false none, third,
         leaf "]" close (close + 1) false none]⟩,
       leaf ";" (close + 1) (close + 2) false none]⟩,
     leaf "comment" (close + 3) (close + 11) true none]⟩

/-- The tree for three names of three bytes each. -/
def tupleTree : Node :=
  tupleAlias (typeName 10 13 none) (typeName 15 18 none) (typeName 20 23 none)

/-- An error about three bytes of a file. -/
def errorFrom (start : Int) (arity : Nat) : ArityError :=
  ⟨"/repo/Foo.js", start, start + 3, arity⟩

/-- The index with some errors for one file. -/
def indexOf (errors : List ArityError) : Index :=
  ⟨[("Foo.js", errors)], .basename, errors.length⟩

end Sample

/-- Two of three names are given arguments. The first of them holds a character of two bytes, and a
    later error about it does not count. -/
theorem fill_replaces_selected_tuple :
    let source := "type T = [Fé, Bar, Baz]; // @flow"
    let errors := [Sample.errorFrom 10 1, Sample.errorFrom 20 2, Sample.errorFrom 10 5]
    let d := Document.ofSource (fun _ _ => Sample.tupleTree) ⟨.tsx, "any"⟩ source
    isEligible [] "src/Foo.js" source (Sample.indexOf errors) {} = .ok true ∧ d.Aligned ∧
    ∃ filled, (fill (Dialect.backend ⟨.tsx, "any"⟩ fun _ _ => Sample.tupleTree) [] "src/Foo.js"
        source (Sample.indexOf errors) {}).1 = .ok filled ∧
      filled.count = 2 ∧
      ∀ text, filled.source = some text →
        Utf8.ofString text = (Utf8.ofString source).patch
          [⟨⟨10, 13⟩, Utf8.ofString "Fé<any>"⟩, ⟨⟨20, 23⟩, Utf8.ofString "Baz<any, any>"⟩] := by
  intro source errors d
  have heligible : isEligible [] "src/Foo.js" source (Sample.indexOf errors) {} = .ok true := by
    decide +kernel
  have haligned : d.Aligned := by decide +kernel
  have hlength : (d.selected errors).length = 2 := by decide +kernel
  have hfillings : (byStart (d.selected errors)).map (d.filling errors) =
      [⟨⟨10, 13⟩, Utf8.ofString "Fé<any>"⟩, ⟨⟨20, 23⟩, Utf8.ofString "Baz<any, any>"⟩] := by
    -- The walk meets them from left to right already.
    have hsorted : byStart (d.selected errors) = d.selected errors :=
      List.mergeSort_of_pairwise (by decide +kernel)
    rw [hsorted]
    decide +kernel
  obtain ⟨filled, hfilled, hcount, _, htext⟩ :=
    fill_replaces_selected (fun _ _ => Sample.tupleTree) ⟨.tsx, "any"⟩ [] "src/Foo.js" source
      (Sample.indexOf errors) {} errors heligible (by decide +kernel) haligned
      (by decide +kernel) (by decide +kernel)
  refine ⟨heligible, haligned, filled, hfilled, hcount.trans hlength, ?_⟩
  intro text hsome
  rw [← hfillings]
  exact (htext text hsome).1

end ArityFill
