import ArityFill.Document.Basic
import ArityFill.Proofs.Source.Slice
import ArityFill.Proofs.Tree.Walk

/-! # What a parser is given

    A parser sees a source with some bytes turned into spaces, and the offsets of its tree are then
    used on the source itself. That is sound for two reasons:

    - a text that is handed to the parser has the length of the source, and where it differs there
      is a space (`Blanked`), so what is read back at the span of a node is what the parser saw,
      unless that holds a space,
    - bytes are blanked in place only: by the mask, a question mark or a bar at a time, and in the
      spans of the object type spreads.

    `Blanked` composes, so the two blankings are looked at one after the other.
-/

namespace ArityFill

/-- Every node of a tree covers bytes of a text, or none between two of them. -/
def Node.Inside (root : Node) (text : Bytes) : Prop :=
  ∀ n, root.Has n → n.node.span.start ≤ n.node.span.stop ∧ n.node.span.stop ≤ text.length

instance (root : Node) (text : Bytes) : Decidable (root.Inside text) :=
  decidable_of_iff
    (∀ n ∈ root.walk, n.node.span.start ≤ n.node.span.stop ∧ n.node.span.stop ≤ text.length)
    ⟨fun h n hn => h n (Node.mem_walk_iff.mpr hn), fun h n hn => h n (Node.mem_walk_iff.mp hn)⟩

namespace Bytes

/-! ## Blanking bytes in place -/

/-- A text that has the bytes of another one, or spaces in their stead. The spaces may stand at some
    offsets only. -/
structure Blanked (place : Nat → Prop) (source text : Bytes) : Prop where
  /-- It is as long. -/
  length_eq : text.length = source.length
  /-- It has the same byte at an offset, or a space where one may stand. -/
  same_or_space : ∀ i, text[i]? = source[i]? ∨ text[i]? = some (byte ' ') ∧ place i

namespace Blanked

variable {place place' : Nat → Prop} {source text text' : Bytes}

theorem nil : Blanked place [] [] :=
  ⟨rfl, fun _ => .inl rfl⟩

theorem mono (h : Blanked place source text) (himp : ∀ i, place i → place' i) :
    Blanked place' source text :=
  ⟨h.length_eq, fun i => (h.same_or_space i).imp_right fun ⟨hi, hp⟩ => ⟨hi, himp i hp⟩⟩

/-- Blanking what is blanked already adds up the offsets. -/
theorem trans (h : Blanked place source text) (h' : Blanked place' text text') :
    Blanked (fun i => place i ∨ place' i) source text' := by
  refine ⟨h'.length_eq.trans h.length_eq, fun i => ?_⟩
  rcases h'.same_or_space i with hi' | ⟨hi', hp'⟩
  · rw [hi']
    exact (h.same_or_space i).imp_right fun ⟨hi, hp⟩ => ⟨hi, .inl hp⟩
  · exact .inr ⟨hi', .inr hp'⟩

/-- One byte more in front, kept or blanked. -/
theorem cons {a b : UInt8} (hhead : b = a ∨ b = byte ' ' ∧ place 0)
    (htail : Blanked (fun i => place (i + 1)) source text) :
    Blanked place (a :: source) (b :: text) := by
  refine ⟨congrArg (· + 1) htail.length_eq, fun i => ?_⟩
  cases i with
  | zero =>
    simp only [List.getElem?_cons_zero, Option.some.injEq]
    exact hhead
  | succ i =>
    simp only [List.getElem?_cons_succ]
    exact htail.same_or_space i

theorem place_of_ne (h : Blanked place source text) {i : Nat} (hi : text[i]? ≠ source[i]?) :
    place i :=
  ((h.same_or_space i).resolve_left hi).2

/-- A slice without a space is a slice of the source. -/
theorem slice_eq (h : Blanked place source text) {span : Span}
    (hsolid : byte ' ' ∉ text.slice span) : source.slice span = text.slice span := by
  apply List.ext_getElem?
  intro i
  simp only [slice, List.getElem?_take, List.getElem?_drop]
  split
  · next hi =>
    rcases h.same_or_space (span.start + i) with hsame | ⟨hspace, -⟩
    · exact hsame.symm
    · -- The space would be a byte of the slice.
      refine absurd (List.mem_of_getElem? (i := i) ?_) hsolid
      rw [slice, List.getElem?_take_of_lt hi, List.getElem?_drop, hspace]
  · rfl

end Blanked

theorem length_blankOut {bs : Bytes} {span : Span} (h : span.stop ≤ bs.length) :
    (bs.blankOut span).length = bs.length := by
  simp only [blankOut, splice, List.length_append, List.length_take, List.length_replicate,
    List.length_drop]
  omega

/-- Blanking a span out changes the bytes of the span and no other. -/
theorem getElem?_blankOut {bs : Bytes} {span : Span} (h : span.stop ≤ bs.length) (i : Nat) :
    (bs.blankOut span)[i]? =
      if span.start ≤ i ∧ i < span.stop then some (byte ' ') else bs[i]? := by
  simp only [blankOut, splice, List.getElem?_append, List.length_append, List.length_take,
    List.length_replicate, List.getElem?_take, List.getElem?_drop, List.getElem?_replicate]
  grind

/-- Blanking spans out, in any order and though they overlap, changes the bytes of the spans and no
    other. -/
theorem foldl_blankOut {spans : List Span} {bs : Bytes} (h : ∀ s ∈ spans, s.stop ≤ bs.length) :
    (spans.foldl blankOut bs).length = bs.length ∧
    ∀ i, (spans.foldl blankOut bs)[i]? =
      if ∃ s ∈ spans, s.start ≤ i ∧ i < s.stop then some (byte ' ') else bs[i]? := by
  induction spans generalizing bs with
  | nil => simp
  | cons s spans ih =>
    have hlength := length_blankOut (h s List.mem_cons_self)
    have hstops : ∀ s' ∈ spans, s'.stop ≤ (bs.blankOut s).length := by
      intro s' hs'
      rw [hlength]
      exact h s' (List.mem_cons_of_mem _ hs')
    obtain ⟨hrest, hbytes⟩ := ih hstops
    refine ⟨hrest.trans hlength, fun i => ?_⟩
    rw [List.foldl_cons, hbytes, getElem?_blankOut (h s List.mem_cons_self)]
    by_cases hin : s.start ≤ i ∧ i < s.stop <;> simp [hin]

theorem blanked_foldl_blankOut {spans : List Span} {bs : Bytes}
    (h : ∀ s ∈ spans, s.stop ≤ bs.length) :
    Blanked (fun i => ∃ s ∈ spans, s.start ≤ i ∧ i < s.stop) bs (spans.foldl blankOut bs) := by
  obtain ⟨hlength, hbytes⟩ := foldl_blankOut h
  refine ⟨hlength, fun i => ?_⟩
  rw [hbytes]
  split
  · next hin => exact .inr ⟨rfl, hin⟩
  · exact .inl rfl

/-! ## Looking for the next byte that is no blank -/

/-- The first offset at or after another one that holds no blank. The end of the text counts as
    one. -/
structure FirstSolid (bs : Bytes) (offset x : Nat) : Prop where
  /-- It is not before the other one. -/
  le : offset ≤ x
  /-- There are only blanks between them. -/
  blank : ∀ i, offset ≤ i → i < x → ∃ b, bs[i]? = some b ∧ isBlank b = true
  /-- It is the end of the text or holds no blank. -/
  solid : x = bs.length ∨ ∃ b, bs[x]? = some b ∧ isBlank b = false

/-- There is only one such offset. -/
theorem FirstSolid.unique {bs : Bytes} {offset x y : Nat} (hx : bs.FirstSolid offset x)
    (hy : bs.FirstSolid offset y) : x = y := by
  -- A blank at the smaller one would contradict that it holds none.
  have not_lt : ∀ {x y : Nat}, bs.FirstSolid offset x → bs.FirstSolid offset y → ¬x < y := by
    intro x y hx hy hlt
    obtain ⟨b, hb, hblank⟩ := hy.blank x hx.le hlt
    rcases hx.solid with rfl | ⟨b', hb', hsolid⟩
    · simp at hb
    · rw [hb, Option.some.injEq] at hb'
      rw [← hb', hblank] at hsolid
      cases hsolid
  have := not_lt hx hy
  have := not_lt hy hx
  omega

/-- The scan over blanks stops at the first offset that holds none. -/
theorem firstSolid_skipForward {bs : Bytes} {offset : Nat} (h : offset ≤ bs.length) :
    bs.FirstSolid offset (bs.skipForward offset) := by
  have hsplit : bs.drop offset =
      (bs.drop offset).takeWhile isBlank ++ (bs.drop offset).dropWhile isBlank :=
    List.takeWhile_append_dropWhile.symm
  have hdrop : ∀ i, bs[offset + i]? = (bs.drop offset)[i]? := fun i => List.getElem?_drop.symm
  refine ⟨Nat.le_add_right _ _, fun i hle hlt => ?_, ?_⟩
  · obtain ⟨j, rfl⟩ := Nat.exists_eq_add_of_le hle
    have hj : j < ((bs.drop offset).takeWhile isBlank).length := Nat.lt_of_add_lt_add_left hlt
    rw [hdrop, hsplit, List.getElem?_append_left hj, List.getElem?_eq_getElem hj]
    exact ⟨_, rfl, List.all_eq_true.mp List.all_takeWhile _ (List.getElem_mem hj)⟩
  · cases hrest : (bs.drop offset).dropWhile isBlank with
    | nil =>
      rw [hrest, List.append_nil] at hsplit
      have hlength := congrArg List.length hsplit
      rw [List.length_drop] at hlength
      left
      unfold skipForward
      omega
    | cons b rest =>
      have hsolid := List.head?_dropWhile_not isBlank (bs.drop offset)
      rw [hrest] at hsplit hsolid
      right
      refine ⟨b, ?_, hsolid⟩
      calc bs[bs.skipForward offset]?
          = ((bs.drop offset).takeWhile isBlank ++ b :: rest)[
              ((bs.drop offset).takeWhile isBlank).length]? := by
            rw [← hsplit, skipForward, hdrop]
        _ = some b := by simp

theorem firstSolid_iff {bs : Bytes} {offset x : Nat} (h : offset ≤ bs.length) :
    bs.FirstSolid offset x ↔ bs.skipForward offset = x := by
  constructor
  · exact (firstSolid_skipForward h).unique
  · rintro rfl
    exact firstSolid_skipForward h

end Bytes

namespace Source

open Bytes (Blanked)

/-! ## The mask -/

/-- The mask blanks question marks and bars, and nothing else. -/
theorem blanked_maskFrom (before bs : Bytes) :
    Blanked (fun i => bs[i]? = some (byte '?') ∨ bs[i]? = some (byte '|')) bs
      (maskFrom before bs) := by
  fun_induction maskFrom before bs with
  | case1 => exact .nil
  | case2 before b =>
    refine .cons ?_ .nil
    split
    · next h => exact .inr ⟨rfl, .inl (by simp [h.1])⟩
    · exact .inl rfl
  | case3 before b rest ih =>
    -- A question mark, blanked or not by what comes before it.
    refine .cons ?_ ih
    split
    · exact .inr ⟨rfl, .inl rfl⟩
    · exact .inl rfl
  | case4 before a b rest _ h ih =>
    -- Behind an opening brace the second byte is the bar,
    refine .cons (.inl rfl) (.cons (.inr ⟨rfl, .inr ?_⟩) ih)
    simp [h.2]
  | case5 before a b rest _ _ h ih =>
    -- and before a closing one it is the first.
    refine .cons (.inr ⟨rfl, .inr ?_⟩) (.cons (.inl rfl) ih)
    simp [h.1]
  | case6 before a b rest _ _ _ ih => exact .cons (.inl rfl) ih

/-! ## Object type spreads -/

/-- Three dots of a tree that spread an object type: they belong neither to a spread element nor to
    the rest of a pattern or of a type. -/
structure SpreadsObject (root : Node) (n : Located) : Prop where
  /-- They are a node of the tree. -/
  has : root.Has n
  /-- They are three dots. -/
  kind : n.node.kind = "..."
  /-- What they belong to, if they are not a tree of their own. -/
  parent : ∀ p, n.parent? = some p →
    p.kind ≠ "spread_element" ∧ p.kind ≠ "rest_pattern" ∧ p.kind ≠ "rest_type"

theorem isTypeSpread_iff {n : Located} :
    isTypeSpread n = true ↔ n.node.kind = "..." ∧ ∀ p, n.parent? = some p →
      p.kind ≠ "spread_element" ∧ p.kind ≠ "rest_pattern" ∧ p.kind ≠ "rest_type" := by
  unfold isTypeSpread
  cases n.parent? with
  | none => simp
  | some p => simp [valueSpreadParents]

/-- The spans that are blanked out are those of the object type spreads. -/
theorem mem_typeSpreads {root : Node} {s : Span} :
    s ∈ typeSpreads root ↔ ∃ n, SpreadsObject root n ∧ n.node.span = s := by
  simp only [typeSpreads, List.mem_map, List.mem_filter, Node.mem_walk_iff, isTypeSpread_iff]
  constructor
  · rintro ⟨n, ⟨hhas, hkind, hparent⟩, rfl⟩
    exact ⟨n, ⟨hhas, hkind, hparent⟩, rfl⟩
  · rintro ⟨n, h, rfl⟩
    exact ⟨n, ⟨h.has, h.kind, h.parent⟩, rfl⟩

/-! ## The texts of a parse -/

/-- A source without the punctuation of the mask and without object type spreads. -/
def unspread (parser : Parser) (grammar : Grammar) (source : Bytes) : Bytes :=
  (typeSpreads (parser grammar (mask source))).foldl Bytes.blankOut (mask source)

/-- A parse without the case distinction: where there are no spreads, the text without spreads is
    the masked one. -/
theorem parse_eq (parser : Parser) (grammar : Grammar) (source : Bytes) :
    let spreads := typeSpreads (parser grammar (mask source))
    let plain := unspread parser grammar source
    parse parser grammar source =
      ⟨if spreads = [] then [mask source] else [mask source, plain], parser grammar plain,
        spreads.map fun s => plain.skipForward s.stop⟩ := by
  simp only [parse, unspread]
  cases typeSpreads (parser grammar (mask source)) with
  | nil => rfl
  | cons s ss => rfl

section

variable {parser : Parser} {grammar : Grammar} {source : Bytes}

/-- There is one text, or there are spreads and a second text without them. -/
theorem texts_cases :
    (parse parser grammar source).texts = [mask source] ∧
        unspread parser grammar source = mask source ∧
        (∀ n, ¬SpreadsObject (parser grammar (mask source)) n) ∨
      (parse parser grammar source).texts = [mask source, unspread parser grammar source] ∧
        ∃ n, SpreadsObject (parser grammar (mask source)) n := by
  rw [parse_eq]
  cases hspreads : typeSpreads (parser grammar (mask source)) with
  | nil =>
    refine .inl ⟨rfl, by rw [unspread, hspreads, List.foldl_nil], fun n hn => ?_⟩
    -- The span of a spread would be in the empty list.
    have hmem := mem_typeSpreads.mpr ⟨n, hn, rfl⟩
    rw [hspreads] at hmem
    cases hmem
  | cons s ss =>
    obtain ⟨n, hn, -⟩ := mem_typeSpreads.mp (hspreads ▸ List.mem_cons_self)
    exact .inr ⟨rfl, n, hn⟩

theorem mask_mem_texts : mask source ∈ (parse parser grammar source).texts := by
  rcases @texts_cases parser grammar source with ⟨h, -⟩ | ⟨h, -⟩ <;>
    exact h ▸ List.mem_cons_self

theorem mem_texts {text : Bytes} (h : text ∈ (parse parser grammar source).texts) :
    text = mask source ∨ text = unspread parser grammar source := by
  rcases @texts_cases parser grammar source with ⟨htexts, -⟩ | ⟨htexts, -⟩
  · rw [htexts] at h
    exact .inl (List.mem_singleton.mp h)
  · rw [htexts] at h
    simpa using h

variable (hinside : (parser grammar (mask source)).Inside (mask source))
include hinside

theorem stop_le_of_mem_typeSpreads {s : Span}
    (hs : s ∈ typeSpreads (parser grammar (mask source))) : s.stop ≤ (mask source).length := by
  obtain ⟨n, hn, rfl⟩ := mem_typeSpreads.mp hs
  exact (hinside n hn.has).2

theorem length_unspread : (unspread parser grammar source).length = (mask source).length :=
  (Bytes.foldl_blankOut fun _ => stop_le_of_mem_typeSpreads hinside).1

/-- The dots of an object type spread are gone from the second text. -/
theorem unspread_eq_space {n : Located} (hn : SpreadsObject (parser grammar (mask source)) n)
    {i : Nat} (hi : n.node.span.start ≤ i ∧ i < n.node.span.stop) :
    (unspread parser grammar source)[i]? = some (byte ' ') := by
  have hbytes := (Bytes.foldl_blankOut fun _ => stop_le_of_mem_typeSpreads hinside).2 i
  rw [unspread, hbytes, if_pos ⟨n.node.span, mem_typeSpreads.mpr ⟨n, hn, rfl⟩, hi⟩]

/-- A text that the parser was given is the source with question marks, bars and the dots of object
    type spreads blanked. -/
theorem blanked_of_mem_texts {text : Bytes} (h : text ∈ (parse parser grammar source).texts) :
    Blanked (fun i => (source[i]? = some (byte '?') ∨ source[i]? = some (byte '|')) ∨
      ∃ n, SpreadsObject (parser grammar (mask source)) n ∧
        n.node.span.start ≤ i ∧ i < n.node.span.stop) source text := by
  have hmask := blanked_maskFrom [] source
  rcases mem_texts h with rfl | rfl
  · exact hmask.mono fun i => .inl
  · have hspreads : Blanked _ (mask source) (unspread parser grammar source) :=
      Bytes.blanked_foldl_blankOut fun _ => stop_le_of_mem_typeSpreads hinside
    refine (hmask.trans hspreads).mono fun i => Or.imp_right ?_
    rintro ⟨s, hs, hi⟩
    obtain ⟨n, hn, rfl⟩ := mem_typeSpreads.mp hs
    exact ⟨n, hn, hi⟩

/-- The offsets that are kept are those of what follows the object type spreads. -/
theorem mem_spreadNames {x : Nat} :
    x ∈ (parse parser grammar source).spreadNames ↔
      ∃ n, SpreadsObject (parser grammar (mask source)) n ∧
        (unspread parser grammar source).FirstSolid n.node.span.stop x := by
  have hnext : ∀ {s : Span}, s ∈ typeSpreads (parser grammar (mask source)) →
      ((unspread parser grammar source).FirstSolid s.stop x ↔
        (unspread parser grammar source).skipForward s.stop = x) := by
    intro s hs
    apply Bytes.firstSolid_iff
    rw [length_unspread hinside]
    exact stop_le_of_mem_typeSpreads hinside hs
  rw [parse_eq]
  simp only [List.mem_map]
  constructor
  · rintro ⟨s, hs, hx⟩
    obtain ⟨n, hn, rfl⟩ := mem_typeSpreads.mp hs
    exact ⟨n, hn, (hnext hs).mpr hx⟩
  · rintro ⟨n, hn, hx⟩
    have hs := mem_typeSpreads.mpr ⟨n, hn, rfl⟩
    exact ⟨n.node.span, hs, (hnext hs).mp hx⟩

end

end Source

theorem Document.textOf_eq_ok_iff {d : Document} {n : Node} {t : String} :
    d.textOf n = .ok t ↔ Utf8.toString? (d.source.slice n.span) = some t := by
  unfold Document.textOf
  cases Utf8.toString? (d.source.slice n.span) with
  | none => simp
  | some s => simp

/-- **Offsets into what a parser was given are offsets into the source.** If the parser puts its
    nodes inside the text that it is given, then there is one text, or a second one without
    the object type spreads of the first tree, and the document has the tree of the last. Each text
    is as long as the source and differs from it in spaces only, which stand for question marks,
    bars and the dots of those spreads. So a node without a space is read back from the source as
    the parser saw it. The names that followed a spread begin where the last text has its first
    solid byte after the dots. -/
theorem Document.ofSource_keeps_offsets (parser : Parser) (dialect : Dialect) (source : String)
    (hinside : ∀ text ∈ (Source.parse parser dialect.grammar (Utf8.ofString source)).texts,
      (parser dialect.grammar text).Inside text) :
    let bytes := Utf8.ofString source
    let texts := (Source.parse parser dialect.grammar bytes).texts
    let d := Document.ofSource parser dialect source
    ∃ first last,
      (texts = [first] ∧ last = first ∧
          (∀ n, ¬Source.SpreadsObject (parser dialect.grammar first) n) ∨
        texts = [first, last] ∧ ∃ n, Source.SpreadsObject (parser dialect.grammar first) n) ∧
      d.root = parser dialect.grammar last ∧
      (∀ text ∈ texts,
        text.length = bytes.length ∧
        (∀ i : Nat, text[i]? = bytes[i]? ∨ text[i]? = some (byte ' ')) ∧
        (∀ i : Nat, text[i]? ≠ bytes[i]? →
          bytes[i]? = some (byte '?') ∨ bytes[i]? = some (byte '|') ∨
          ∃ n, Source.SpreadsObject (parser dialect.grammar first) n ∧
            n.node.span.start ≤ i ∧ i < n.node.span.stop) ∧
        ∀ n : Node, byte ' ' ∉ text.slice n.span →
          d.source.slice n.span = text.slice n.span ∧
          ∀ t, d.textOf n = .ok t ↔ Utf8.toString? (text.slice n.span) = some t) ∧
      (∀ n, Source.SpreadsObject (parser dialect.grammar first) n →
        ∀ i : Nat, n.node.span.start ≤ i → i < n.node.span.stop → last[i]? = some (byte ' ')) ∧
      ∀ x, x ∈ d.spreadNames ↔
        ∃ n, Source.SpreadsObject (parser dialect.grammar first) n ∧
          last.FirstSolid n.node.span.stop x := by
  intro bytes texts d
  have hfirst := hinside _ Source.mask_mem_texts
  refine ⟨Source.mask bytes, Source.unspread parser dialect.grammar bytes, Source.texts_cases,
    ?_, ?_, ?_, ?_⟩
  · show (Source.parse parser dialect.grammar bytes).root = _
    rw [Source.parse_eq]
  · intro text htext
    have hblanked := Source.blanked_of_mem_texts hfirst htext
    refine ⟨hblanked.length_eq, fun i => (hblanked.same_or_space i).imp_right And.left,
      fun i hi => or_assoc.mp (hblanked.place_of_ne hi), fun n hn => ?_⟩
    have hslice : d.source.slice n.span = text.slice n.span := hblanked.slice_eq hn
    refine ⟨hslice, fun t => ?_⟩
    rw [Document.textOf_eq_ok_iff, hslice]
  · exact fun n hn i hle hlt => Source.unspread_eq_space hfirst hn ⟨hle, hlt⟩
  · exact fun x => Source.mem_spreadNames hfirst

/-! ## An exact object type with a spread -/

namespace Sample

/-- A tree of the alias `type A0 = {| ...T |};` after a comment, with what a parser takes the dots
    for. -/
def exactAlias (dots : List Node) : Node :=
  ⟨"program", ⟨0, 31⟩, true, none,
    [⟨"comment", ⟨0, 8⟩, true, none, []⟩,
     ⟨"type_alias_declaration", ⟨9, 30⟩, true, none,
      [⟨"type", ⟨9, 13⟩, false, none, []⟩, ⟨"type_identifier", ⟨14, 16⟩, true, some .name, []⟩,
       ⟨"=", ⟨17, 18⟩, false, none, []⟩,
       ⟨"object_type", ⟨19, 29⟩, true, none,
        [⟨"\x7b", ⟨19, 20⟩, false, none, []⟩] ++ dots ++
        [⟨"property_signature", ⟨25, 26⟩, true, none,
          [⟨"property_identifier", ⟨25, 26⟩, true, some .name, []⟩]⟩,
         ⟨"\x7d", ⟨28, 29⟩, false, none, []⟩]⟩,
       ⟨";", ⟨29, 30⟩, false, none, []⟩]⟩]⟩

/-- A parser for the two texts of that alias. It takes the dots for an error, if they are there. -/
def exactParser : Parser := fun _ text =>
  if text[22]? = some (byte '.') then
    exactAlias [⟨"ERROR", ⟨22, 25⟩, true, none, [⟨"...", ⟨22, 25⟩, false, none, []⟩]⟩]
  else exactAlias []

end Sample

/-- Two bars and three dots are blanked, the name behind the dots is kept, and its text is read back
    from the source. -/
theorem Document.ofSource_keeps_offsets_exact :
    let source := "// @flow\ntype A0 = \x7b| ...T |\x7d;\n"
    let first := Utf8.ofString "// @flow\ntype A0 = \x7b  ...T  \x7d;\n"
    let last := Utf8.ofString "// @flow\ntype A0 = \x7b     T  \x7d;\n"
    let texts := (Source.parse Sample.exactParser .tsx (Utf8.ofString source)).texts
    let d := Document.ofSource Sample.exactParser ⟨.tsx, "any"⟩ source
    (∀ text ∈ texts, (Sample.exactParser .tsx text).Inside text) ∧
    texts = [first, last] ∧ d.spreadNames = [25] ∧
    (∃ n, Source.SpreadsObject (Sample.exactParser .tsx first) n ∧
      last.FirstSolid n.node.span.stop 25) ∧
    ∀ n : Node, n.span = ⟨25, 26⟩ → d.textOf n = .ok "T" := by
  intro source first last texts d
  have htexts : texts = [first, last] := by decide +kernel
  have hnames : d.spreadNames = [25] := by decide +kernel
  have hinside : ∀ text ∈ texts, (Sample.exactParser .tsx text).Inside text := by
    rw [htexts]
    decide +kernel
  obtain ⟨first', last', hcases, _, hall, _, hspread⟩ :=
    Document.ofSource_keeps_offsets Sample.exactParser ⟨.tsx, "any"⟩ source hinside
  have hsame : first' = first ∧ last' = last := by
    rcases hcases with ⟨hone, -⟩ | ⟨htwo, -⟩
    · cases htexts.symm.trans hone
    · simpa using htwo.symm.trans htexts
  obtain ⟨rfl, rfl⟩ := hsame
  refine ⟨hinside, htexts, hnames, ?_, fun n hn => ?_⟩
  · rw [← hspread 25, hnames]
    exact List.mem_cons_self
  · have hmem : last ∈ texts := by
      rw [htexts]
      exact List.mem_cons_of_mem _ List.mem_cons_self
    refine ((hall last hmem).2.2.2 n ?_).2 "T" |>.mpr ?_
    · rw [hn]
      decide +kernel
    · rw [hn]
      decide +kernel

end ArityFill
