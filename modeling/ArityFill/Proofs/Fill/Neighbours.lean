import ArityFill.Proofs.Document.Shift
import ArityFill.Proofs.Fill.File
import ArityFill.Proofs.Fill.Splice

/-! # What filling in leaves alone

    Arguments are written behind the references that need them, so everything behind them moves. A
    reference that was not filled in is judged again in the next run: by its bytes, by the next
    solid byte behind it, and by the last solid byte before it. The scans for these may run over
    text that was rewritten. The one forwards meets the old name first, and the one backwards meets
    the closing bracket of the arguments where it met the end of the name before.

    `fill_keeps_neighbours` says that all answers stay as they were, if the selected references are
    names that hold bytes of their own and do not end with a percent sign.
-/

namespace ArityFill

open Report (ArityError Index)

namespace Document

/-! ## The new text as insertions -/

/-- What is inserted behind a selected reference. -/
def insertion (d : Document) (errors : List ArityError) (n : Located) : Edit :=
  ⟨n.node.span, d.argumentBytes errors n⟩

/-- Where an offset of the source moves to: by all arguments that are given to references that end
    at or before it. -/
def moved (d : Document) (errors : List ArityError) (x : Nat) : Nat :=
  shifted ((d.selected errors).map (d.insertion errors)) x

/-- The source with all fillings made. -/
def filledBytes (d : Document) (errors : List ArityError) : Bytes :=
  applyEdits d.source (fromTheEnd ((d.selected errors).map (d.filling errors)))

/-- The selected references are names with bytes of their own, and a scan that goes backwards into
    one of them meets something else than a percent sign. -/
structure Separate (d : Document) (errors : List ArityError) : Prop where
  /-- Each holds bytes. -/
  full : ∀ n ∈ d.selected errors, n.node.span.start < n.node.span.stop
  /-- No two share a byte. -/
  apart : (d.selected errors).Pairwise fun a b => a.node.span.Disjoint b.node.span
  /-- None is an applied type. -/
  plain : ∀ n ∈ d.selected errors, n.node.kind ≠ "generic_type"
  /-- Each has a solid byte, and the last one is no percent sign. -/
  solid : ∀ n ∈ d.selected errors,
    ∃ b, (d.source.slice n.node.span).finalSolid? = some b ∧ b ≠ byte '%'

/-- The insertions from left to right, cut off at the end of the source. -/
def inserted (d : Document) (errors : List ArityError) : List Edit :=
  ((byStart (d.selected errors)).map (d.insertion errors)).map (Edit.within d.source.length)

theorem mem_inserted {d : Document} {errors : List ArityError} {e : Edit}
    (he : e ∈ d.inserted errors) :
    ∃ n ∈ d.selected errors, e = (d.insertion errors n).within d.source.length := by
  obtain ⟨_, hmem, rfl⟩ := List.mem_map.mp he
  obtain ⟨n, hn, rfl⟩ := List.mem_map.mp hmem
  exact ⟨n, mem_byStart.mp hn, rfl⟩

/-- An argument list ends with its closing bracket. -/
theorem finalSolid?_argumentBytes (d : Document) (errors : List ArityError) (n : Located) :
    (d.argumentBytes errors n).finalSolid? = some (byte '>') := by
  unfold argumentBytes argumentList
  rw [Utf8.ofString_append]
  apply Bytes.finalSolid?_append_of_some
  decide

/-- The new text is what comes of making the fillings. -/
theorem fillDocument_source {file : String} {errors : List ArityError} {d : Document}
    {text : String} {count : Nat} (hedits : d.edits = [])
    (h : (fillDocument file errors d).1 = .ok ⟨some text, count⟩) :
    Utf8.ofString text = d.filledBytes errors := by
  rw [fillDocument_eq] at h
  split at h
  · next p hp =>
    obtain ⟨_, _, hdoc⟩ := fillReferences_ok hp
    have hedited : p.document.edited = d.filledBytes errors := by
      rw [edited, hdoc]
      show applyEdits d.source (fromTheEnd (d.edits ++ _)) = _
      rw [hedits, List.nil_append]
      rfl
    simp only [Progress.finish, SyntaxTree.toSource, toSource, hedited] at h
    split at h
    · -- Without any filling there is no new text.
      cases h
    · cases htext : Utf8.toString? (d.filledBytes errors) with
      | some s =>
        rw [htext] at h
        cases h
        exact (Utf8.toString?_eq_some_iff.mp htext).symm
      | none =>
        rw [htext] at h
        cases h
  · cases h

namespace Separate

variable {d : Document} {errors : List ArityError} (h : d.Separate errors)
include h

/-- A selected reference begins inside the source, because it has a solid byte. -/
theorem start_lt {n : Located} (hn : n ∈ d.selected errors) :
    n.node.span.start < d.source.length := by
  obtain ⟨b, hb, -⟩ := h.solid n hn
  by_contra hbeyond
  have hnil : d.source.slice n.node.span = [] := by
    rw [Bytes.slice, List.drop_eq_nil_of_le (Nat.le_of_not_lt hbeyond), List.take_nil]
  rw [hnil] at hb
  cases hb

theorem ordered_full :
    ∀ e ∈ (byStart (d.selected errors)).map (d.insertion errors), e.span.start < e.span.stop := by
  intro e he
  obtain ⟨n, hn, rfl⟩ := List.mem_map.mp he
  exact h.full n (mem_byStart.mp hn)

theorem ordered_start_lt :
    ∀ e ∈ (byStart (d.selected errors)).map (d.insertion errors),
      e.span.start < d.source.length := by
  intro e he
  obtain ⟨n, hn, rfl⟩ := List.mem_map.mp he
  exact h.start_lt (mem_byStart.mp hn)

theorem ordered_pairwise :
    ((byStart (d.selected errors)).map (d.insertion errors)).Pairwise
      fun a b => a.span.stop ≤ b.span.start := by
  rw [List.pairwise_map]
  exact byStart_pairwise h.full h.apart

theorem inOrder : InOrder d.source.length 0 (d.inserted errors) :=
  inOrder_within h.ordered_full h.ordered_start_lt h.ordered_pairwise

theorem inserted_full : ∀ e ∈ d.inserted errors, e.span.start < e.span.stop := by
  intro e he
  obtain ⟨n, hn, rfl⟩ := mem_inserted he
  have hbytes := h.full n hn
  have hinside := h.start_lt hn
  show n.node.span.start < min n.node.span.stop d.source.length
  omega

/-- Every insertion is made behind a text whose last solid byte is no percent sign. -/
theorem inserted_solid : ∀ e ∈ d.inserted errors,
    ∃ b, (d.source.slice e.span).finalSolid? = some b ∧ b ≠ byte '%' := by
  intro e he
  obtain ⟨n, hn, rfl⟩ := mem_inserted he
  rw [Bytes.slice_within]
  exact h.solid n hn

/-- The new text is the source with the insertions made. -/
theorem filledBytes_eq_patch :
    d.filledBytes errors = d.source.patch ((d.inserted errors).map (Edit.behind d.source)) := by
  -- Without applied types every filling keeps its span and adds something behind it.
  have hbehind : (d.selected errors).map (d.filling errors) =
      ((d.selected errors).map (d.insertion errors)).map (Edit.behind d.source) := by
    rw [List.map_map]
    apply List.map_congr_left
    intro n hn
    exact filling_eq_behind hn (h.plain n hn)
  rw [filledBytes, hbehind]
  exact applyEdits_insertions ((List.mergeSort_perm _ _).map _) h.ordered_full h.ordered_start_lt
    h.ordered_pairwise

/-! ## Looking from a moved offset -/

section
variable {x : Nat} (hx : x ≤ d.source.length)
  (hcut : ∀ n ∈ d.selected errors, n.node.span.stop ≤ x ∨ x ≤ n.node.span.start)
include hx hcut

/-- An offset inside no selected reference moves alike if the insertions are cut off. -/
theorem shifted_inserted : shifted (d.inserted errors) x = d.moved errors x := by
  have hordered : ∀ e ∈ (byStart (d.selected errors)).map (d.insertion errors),
      e.span.stop ≤ x ∨ x ≤ e.span.start := by
    intro e he
    obtain ⟨n, hn, rfl⟩ := List.mem_map.mp he
    exact hcut n (mem_byStart.mp hn)
  rw [inserted, shifted_within h.ordered_start_lt hx hordered, moved]
  exact shifted_perm ((List.mergeSort_perm _ _).map _) x

omit h hx in
theorem inserted_cut : ∀ e ∈ d.inserted errors, e.span.stop ≤ x ∨ x ≤ e.span.start := by
  intro e he
  obtain ⟨n, hn, rfl⟩ := mem_inserted he
  show min n.node.span.stop d.source.length ≤ x ∨ x ≤ n.node.span.start
  have := hcut n hn
  omega

/-- Forwards from a moved offset the same solid byte is met first. -/
theorem nextSolid?_moved :
    (d.filledBytes errors).nextSolid? (d.moved errors x) = d.source.nextSolid? x := by
  have hsolid : ∀ e ∈ d.inserted errors, (d.source.slice e.span).finalSolid?.isSome := by
    intro e he
    obtain ⟨b, hb, -⟩ := h.inserted_solid e he
    rw [hb]
    rfl
  rw [h.filledBytes_eq_patch, ← h.shifted_inserted hx hcut]
  exact nextSolid?_shifted h.inOrder h.inserted_full hsolid hx (inserted_cut hcut)

/-- Backwards from a moved offset a percent sign is met first exactly if it was before. -/
theorem lastSolid?_moved_iff :
    (d.filledBytes errors).lastSolid? (d.moved errors x) = some (byte '%') ↔
      d.source.lastSolid? x = some (byte '%') := by
  have htexts : ∀ e ∈ d.inserted errors,
      ∃ b, e.text.finalSolid? = some b ∧ b ≠ byte '%' := by
    intro e he
    obtain ⟨n, _, rfl⟩ := mem_inserted he
    exact ⟨byte '>', d.finalSolid?_argumentBytes errors n, by decide⟩
  rw [h.filledBytes_eq_patch, ← h.shifted_inserted hx hcut]
  exact lastSolid?_shifted_iff h.inOrder h.inserted_full h.inserted_solid htexts hx
    (inserted_cut hcut)

end

/-- A span that shares no byte with a selected reference moves as a whole. -/
theorem slice_moved {s : Span} (hle : s.start ≤ s.stop) (hstop : s.stop ≤ d.source.length)
    (hdis : ∀ n ∈ d.selected errors, s.Disjoint n.node.span) :
    (d.filledBytes errors).slice (s.map (d.moved errors)) = d.source.slice s := by
  have hstart := Nat.le_trans hle hstop
  -- Neither end lies inside a selected reference.
  have hmap : s.map (d.moved errors) = s.map (shifted (d.inserted errors)) := by
    rw [Span.map, Span.map, h.shifted_inserted hstart fun n hn => ((hdis n hn).cut hle).1,
      h.shifted_inserted hstop fun n hn => ((hdis n hn).cut hle).2]
  rw [h.filledBytes_eq_patch, hmap]
  refine slice_shifted h.inOrder h.inserted_full hle hstop ?_
  intro e he
  obtain ⟨n, hn, rfl⟩ := mem_inserted he
  rcases hdis n hn with hs | hs
  · exact .inl hs
  · exact .inr (Nat.le_trans (Nat.min_le_left _ _) hs)

end Separate

/-! ## Reading a name -/

/-- The spans that the name of a node is read off. -/
def nameSpans (n : Node) : List Span :=
  match nameNode? n with
  | none => []
  | some name =>
    if plainNames.contains name.kind then [name.span]
    else if name.kind = "nested_type_identifier" then
      match name.child? .qualifier, name.child? .name with
      | some qualifier, some ident =>
        if qualifier.kind = "identifier" then [qualifier.span, ident.span] else []
      | _, _ => []
    else []

/-- The text that some bytes spell. -/
def textOfBytes (bs : Bytes) : Except Fault String :=
  match Utf8.toString? bs with
  | some s => .ok s
  | none => .error .notText

/-- The name that is read off the bytes of one span, or off those of a qualifier and a name. -/
def readName : List Bytes → Except Fault (Option String)
  | [name] => (textOfBytes name).map some
  | [qualifier, ident] => do
    let q ← textOfBytes qualifier
    let i ← textOfBytes ident
    return some s!"{q}.{i}"
  | _ => .ok none

/-- The name of a node depends on the bytes of a few spans, and on nothing else. -/
theorem nameOf?_eq_readName (d : Document) (n : Node) :
    d.nameOf? n = readName ((nameSpans n).map d.source.slice) := by
  unfold nameOf? nameSpans
  cases nameNode? n with
  | none => rfl
  | some name =>
    dsimp only
    by_cases hplain : plainNames.contains name.kind = true
    · rw [if_pos hplain, if_pos hplain]
      rfl
    · rw [if_neg hplain, if_neg hplain]
      by_cases hnested : name.kind = "nested_type_identifier"
      · rw [if_pos hnested, if_pos hnested]
        cases name.child? .qualifier with
        | none => rfl
        | some qualifier =>
          cases name.child? .name with
          | none => rfl
          | some ident =>
            dsimp only
            split
            · rfl
            · rfl
      · rw [if_neg hnested, if_neg hnested]
        rfl

/-- Whether a node that is no applied type has arguments depends on the next solid byte. -/
theorem hasArguments_eq {d d' : Document} {n n' : Node} (hkind : n'.kind = n.kind)
    (hplain : n.kind ≠ "generic_type")
    (hnext : d'.source.nextSolid? n'.span.stop = d.source.nextSolid? n.span.stop) :
    d'.hasArguments n' = d.hasArguments n := by
  simp only [hasArguments, hkind, if_neg hplain, hnext]

end Document

/-! ## References that were not filled in -/

/-- A span of a text of some size. -/
def Span.Inside (size : Nat) (s : Span) : Prop :=
  s.start ≤ s.stop ∧ s.stop ≤ size

/-- A node stands where another one has moved to: it is of the same kind, covers the moved span,
    and its name is read off the moved spans. -/
structure Node.Moved (move : Nat → Nat) (n n' : Node) : Prop where
  /-- The kind is the same. -/
  kind : n'.kind = n.kind
  /-- The span has moved. -/
  span : n'.span = n.span.map move
  /-- The name has moved. -/
  name : Document.nameSpans n' = (Document.nameSpans n).map (Span.map move)

/-- A node is not touched when the bytes of a span are rewritten: they lie outside of it, or inside
    as the arguments of an applied type do, and its name is not read off them. -/
structure Node.Clear (n : Node) (s : Span) : Prop where
  /-- The span is outside or inside. -/
  span : n.span.Disjoint s ∨ n.span.start ≤ s.start ∧ s.stop ≤ n.span.stop
  /-- The name is outside. -/
  name : ∀ p ∈ Document.nameSpans n, p.Disjoint s

/-- Neither end of a node lies inside a span that it is clear of. -/
theorem Node.Clear.cut {n : Node} {s : Span} (h : n.Clear s) (hle : n.span.start ≤ n.span.stop) :
    (s.stop ≤ n.span.start ∨ n.span.start ≤ s.start) ∧
    (s.stop ≤ n.span.stop ∨ n.span.stop ≤ s.start) := by
  rcases h.span with hdis | ⟨hstart, hstop⟩
  · exact hdis.cut hle
  · exact ⟨.inr hstart, .inl hstop⟩

/-- **Filling in does not disturb the neighbours.** Let a text be filled in, where the selected
    references are names that hold bytes of their own and do not end with a percent sign. Then the
    new text holds the bytes of every span that shares none with a selected reference, at the moved
    place; behind it the next solid byte is a `<` exactly if it was before, and before it the last
    solid byte is a `%` exactly if it was before.

    So if a document of the new text has a node where an untouched one has moved to, this one has
    the same name; if it is no applied type, it has arguments exactly if it had some before; and it
    follows a percent sign exactly if it did before. -/
theorem fill_keeps_neighbours (parser : Parser) (dialect : Dialect) (cwd : Location)
    (path source text : String) (count : Nat) (index : Index) (o : Options)
    (errors : List ArityError) :
    let d := Document.ofSource parser dialect source
    let move := d.moved errors
    let old := Utf8.ofString source
    let new := Utf8.ofString text
    (fill (dialect.backend parser) cwd path source index o).1 = .ok ⟨some text, count⟩ →
    index.recordsFor cwd path = .ok errors →
    d.Separate errors →
    (∀ s : Span, s.start < s.stop → s.stop ≤ old.length →
      (∀ m ∈ d.selected errors, s.Disjoint m.node.span) →
      new.slice ⟨move s.start, move s.stop⟩ = old.slice s ∧
      (new.nextSolid? (move s.stop) = some (byte '<') ↔
        old.nextSolid? s.stop = some (byte '<')) ∧
      (new.lastSolid? (move s.start) = some (byte '%') ↔
        old.lastSolid? s.start = some (byte '%'))) ∧
    (∀ (d' : Document) (n n' : Node), d'.source = new → n.Moved move n' →
      (∀ s ∈ n.span :: Document.nameSpans n, s.Inside old.length) →
      (∀ m ∈ d.selected errors, n.Clear m.node.span) →
      d'.nameOf? n' = d.nameOf? n ∧
      (n.kind ≠ "generic_type" → d'.hasArguments n' = d.hasArguments n) ∧
      (d'.source.lastSolid? n'.span.start = some (byte '%') ↔
        d.source.lastSolid? n.span.start = some (byte '%'))) := by
  intro d move old new hfill herrors hsep
  have hnew : new = d.filledBytes errors := by
    obtain ⟨heligible, _⟩ := fill_changed hfill rfl
    rw [fill_of_eligible heligible herrors] at hfill
    exact Document.fillDocument_source rfl hfill
  rw [hnew]
  constructor
  · intro s hbytes hstop hdis
    have hle := Nat.le_of_lt hbytes
    have hstart := Nat.le_trans hle hstop
    refine ⟨hsep.slice_moved hle hstop hdis, ?_, ?_⟩
    · rw [hsep.nextSolid?_moved hstop fun m hm => ((hdis m hm).cut hle).2]
      rfl
    · exact hsep.lastSolid?_moved_iff hstart fun m hm => ((hdis m hm).cut hle).1
  · intro d' n n' hsource hmoved hinside hclear
    obtain ⟨hle, hstop⟩ := hinside n.span List.mem_cons_self
    refine ⟨?_, ?_, ?_⟩
    · -- Each span that the name is read off moves as a whole.
      have hsame : ((Document.nameSpans n).map (Span.map move)).map d'.source.slice =
          (Document.nameSpans n).map d.source.slice := by
        rw [List.map_map, hsource]
        apply List.map_congr_left
        intro p hp
        obtain ⟨hple, hpstop⟩ := hinside p (List.mem_cons_of_mem _ hp)
        exact hsep.slice_moved hple hpstop fun m hm => (hclear m hm).name p hp
      rw [Document.nameOf?_eq_readName, Document.nameOf?_eq_readName, hmoved.name, hsame]
    · -- Only an applied type is asked for arguments in the tree, all others in the text.
      intro hkind
      have hnext := hsep.nextSolid?_moved hstop fun m hm => ((hclear m hm).cut hle).2
      apply Document.hasArguments_eq hmoved.kind hkind
      rw [hsource, hmoved.span]
      exact hnext
    · rw [hsource, hmoved.span]
      exact hsep.lastSolid?_moved_iff (Nat.le_trans hle hstop)
        fun m hm => ((hclear m hm).cut hle).1

/-! ## A name between two others -/

namespace Sample

/-- A bare name of three bytes. -/
def bareName (start : Nat) : Node :=
  leaf "identifier" start (start + 3) true none

/-- A file with three names. The second is followed by a bracket, and the third follows a percent
    sign. -/
def namesSource : String := "[Foo Bar <%Baz]; // @flow"

/-- The file with arguments for the first name. -/
def namesFilled : String := "[Foo<any, any> Bar <%Baz]; // @flow"

/-- A parser that finds the three names. -/
def namesParser : Parser := fun _ _ =>
  ⟨"program", ⟨0, 25⟩, true, none, [typeName 1 4 none, bareName 5, typeName 11 14 none]⟩

end Sample

/-- The scan backwards from the second name ends in the first one, which is given arguments. The
    second name still seems to have arguments, and the third one still follows a percent sign. -/
theorem fill_keeps_neighbours_names :
    let errors := [Sample.errorFrom 1 2]
    let d := Document.ofSource Sample.namesParser ⟨.tsx, "any"⟩ Sample.namesSource
    let d' := Document.ofSource Sample.namesParser ⟨.tsx, "any"⟩ Sample.namesFilled
    (fill (Dialect.backend ⟨.tsx, "any"⟩ Sample.namesParser) [] "src/Foo.js" Sample.namesSource
      (Sample.indexOf errors) {}).1 = .ok ⟨some Sample.namesFilled, 1⟩ ∧
    d.Separate errors ∧
    d'.source.slice ⟨15, 18⟩ = d.source.slice ⟨5, 8⟩ ∧
    d'.nameOf? (Sample.bareName 15) = d.nameOf? (Sample.bareName 5) ∧
    d'.hasArguments (Sample.bareName 15) = d.hasArguments (Sample.bareName 5) ∧
    (d'.source.lastSolid? 21 = some (byte '%') ↔ d.source.lastSolid? 11 = some (byte '%')) := by
  intro errors d d'
  have hfill : (fill (Dialect.backend ⟨.tsx, "any"⟩ Sample.namesParser) [] "src/Foo.js"
      Sample.namesSource (Sample.indexOf errors) {}).1 = .ok ⟨some Sample.namesFilled, 1⟩ :=
    fill_eq_some errors rfl (by decide +kernel) (by decide +kernel) (by decide +kernel)
      (by decide +kernel) (by decide) (by decide +kernel) (by decide +kernel) (by decide +kernel)
  have hsep : d.Separate errors := by
    refine ⟨by decide +kernel, by decide +kernel, by decide +kernel, ?_⟩
    intro n hn
    have hlast : ∀ n ∈ d.selected errors,
        (d.source.slice n.node.span).finalSolid? = some (byte 'o') := by
      decide +kernel
    exact ⟨byte 'o', hlast n hn, by decide⟩
  obtain ⟨hspans, hnodes⟩ := fill_keeps_neighbours Sample.namesParser ⟨.tsx, "any"⟩ [] "src/Foo.js"
    Sample.namesSource Sample.namesFilled 1 (Sample.indexOf errors) {} errors hfill
    (by decide +kernel) hsep
  have hsecond : d.moved errors 5 = 15 := by decide +kernel
  have hend : d.moved errors 8 = 18 := by decide +kernel
  have hthird : d.moved errors 11 = 21 := by decide +kernel
  obtain ⟨hslice, _, _⟩ := hspans ⟨5, 8⟩ (by decide) (by decide +kernel) (by decide +kernel)
  obtain ⟨_, _, hpercent⟩ := hspans ⟨11, 14⟩ (by decide) (by decide +kernel) (by decide +kernel)
  have hmoved : (Sample.bareName 5).Moved (d.moved errors) (Sample.bareName 15) := by
    have hspan : (Sample.bareName 5).span.map (d.moved errors) = ⟨15, 18⟩ := by decide +kernel
    exact ⟨rfl, hspan.symm, by decide +kernel⟩
  have hclear : ∀ m ∈ d.selected errors, (Sample.bareName 5).Clear m.node.span := by
    intro m hm
    have hfoo : ∀ m ∈ d.selected errors, m.node.span = ⟨1, 4⟩ := by decide +kernel
    rw [hfoo m hm]
    exact ⟨.inl (by decide), by decide⟩
  have hinside : ∀ s ∈ (Sample.bareName 5).span :: Document.nameSpans (Sample.bareName 5),
      s.Inside (Utf8.ofString Sample.namesSource).length := by
    unfold Span.Inside
    decide +kernel
  obtain ⟨hname, harguments, _⟩ := hnodes d' _ _ rfl hmoved hinside hclear
  rw [hsecond, hend] at hslice
  rw [hthird] at hpercent
  exact ⟨hfill, hsep, hslice, hname, harguments (by decide), hpercent⟩

end ArityFill
