import ArityFill.Document.Edit
import ArityFill.Proofs.Text.Utf8
import Mathlib.Data.List.Nodup

/-! # The ordered splice

    What a set of replacements means for a text, said from left to right: between two replacements
    stand the bytes of the source, and in place of each span stands its new text. `Bytes.patch`
    writes this down for replacements that are given in the order in which they stand.

    The library makes replacements from right to left. `applyEdits_reverse` shows that for
    replacements that stand in order this comes to the same: the one that is made next lies to the
    left of all bytes that have moved.

    If every replacement keeps its span and adds something behind it, nothing of the source is lost:
    `insertions_spec` finds the added texts in the patched text, and leaving them out gives back the
    source.
-/

namespace ArityFill

/-! ## Definitions -/

/-- The bytes from an offset on, with replacements made that stand in order. -/
def Bytes.patchFrom (bs : Bytes) (pos : Nat) : List Edit → Bytes
  | [] => bs.drop pos
  | e :: es => bs.slice ⟨pos, e.span.start⟩ ++ e.text ++ Bytes.patchFrom bs e.span.stop es

/-- The bytes with replacements made that stand in order. -/
def Bytes.patch (bs : Bytes) (es : List Edit) : Bytes :=
  bs.patchFrom 0 es

/-- The bytes outside some spans, which stand in order. -/
def Bytes.without (bs : Bytes) (spans : List Span) : Bytes :=
  bs.patch (spans.map fun s => ⟨s, []⟩)

/-- Replacements that stand in order: from an offset on, none begins before the one before it has
    ended, and all end within the text. -/
inductive InOrder (size : Nat) : Nat → List Edit → Prop where
  /-- Nothing is replaced. -/
  | nil {pos : Nat} : pos ≤ size → InOrder size pos []
  /-- The next replacement, and then those behind it. -/
  | cons {pos : Nat} {e : Edit} {es : List Edit} : pos ≤ e.span.start →
      e.span.start ≤ e.span.stop → InOrder size e.span.stop es → InOrder size pos (e :: es)

/-! ## Replacing from the end -/

theorem InOrder.pos_le {size pos : Nat} {es : List Edit} (h : InOrder size pos es) :
    pos ≤ size := by
  induction h with
  | nil hpos => exact hpos
  | cons hpos hspan _ ih => omega

/-- Making replacements from the last to the first gives the ordered splice. -/
theorem applyEdits_reverse {bs : Bytes} {pos : Nat} {es : List Edit}
    (h : InOrder bs.length pos es) :
    applyEdits bs es.reverse = bs.take pos ++ bs.patchFrom pos es := by
  induction h with
  | nil => simp [applyEdits, Bytes.patchFrom]
  | @cons pos e es hpos hspan hrest ih =>
    have hstop := hrest.pos_le
    have hfold : applyEdits bs (e :: es).reverse =
        (applyEdits bs es.reverse).splice e.span e.text := by
      simp [applyEdits]
    -- The bytes up to the end of `e` have not moved yet.
    have hlen : (bs.take e.span.stop).length = e.span.stop := by
      rw [List.length_take]
      omega
    have htake : (bs.take e.span.stop ++ bs.patchFrom e.span.stop es).take e.span.start =
        bs.take e.span.start := by
      rw [List.take_append_of_le_length (by omega), List.take_take, Nat.min_eq_left hspan]
    have hdrop : (bs.take e.span.stop ++ bs.patchFrom e.span.stop es).drop e.span.stop =
        bs.patchFrom e.span.stop es :=
      List.drop_left' hlen
    rw [hfold, ih, Bytes.splice, Nat.max_eq_right hspan, htake, hdrop, Bytes.patchFrom,
      ← bs.take_append_slice hpos]
    simp only [List.append_assoc]

/-- Replacements in order of their starts, of which no two have the same, are turned around by
    sorting them from the end. -/
theorem fromTheEnd_eq_reverse {es ordered : List Edit} (hperm : ordered.Perm es)
    (hord : ordered.Pairwise fun a b => a.span.start < b.span.start) :
    fromTheEnd es = ordered.reverse := by
  have hinj : ∀ a ∈ ordered, ∀ b ∈ ordered, a.span.start = b.span.start → a = b := by
    have hnodup : (ordered.map fun e => e.span.start).Nodup := by
      rw [List.nodup_iff_pairwise_ne, List.pairwise_map]
      exact hord.imp fun h => Nat.ne_of_lt h
    intro a ha b hb hab
    exact List.inj_on_of_nodup_map hnodup ha hb hab
  refine @List.Perm.eq_of_pairwise Edit (fun a b => decide (b.span.start ≤ a.span.start)) _ _
    ?_ ?_ ?_ ?_
  · intro a b ha hb hab hba
    have ha' : a ∈ ordered := hperm.mem_iff.mpr (List.mem_mergeSort.mp ha)
    have hb' : b ∈ ordered := List.mem_reverse.mp hb
    simp only [decide_eq_true_eq] at hab hba
    exact hinj a ha' b hb' (Nat.le_antisymm hba hab)
  · apply List.pairwise_mergeSort
    · intro a b c hab hbc
      simp only [decide_eq_true_eq] at *
      omega
    · intro a b
      simp only [Bool.or_eq_true, decide_eq_true_eq]
      omega
  · rw [List.pairwise_reverse]
    exact hord.imp fun h => by simpa using Nat.le_of_lt h
  · exact (List.mergeSort_perm es _).trans (hperm.symm.trans (List.reverse_perm ordered).symm)

/-- Spans that hold bytes and stand one after the other make replacements in order. -/
theorem inOrder_of_pairwise {size pos : Nat} {es : List Edit} (hpos : pos ≤ size)
    (hfrom : ∀ e ∈ es, pos ≤ e.span.start)
    (hspan : ∀ e ∈ es, e.span.start ≤ e.span.stop ∧ e.span.stop ≤ size)
    (hord : es.Pairwise fun a b => a.span.stop ≤ b.span.start) : InOrder size pos es := by
  induction es generalizing pos with
  | nil => exact .nil hpos
  | cons e es ih =>
    rw [List.pairwise_cons] at hord
    have he := hspan e List.mem_cons_self
    refine .cons (hfrom e List.mem_cons_self) he.1 (ih he.2 hord.1 ?_ hord.2)
    intro e' he'
    exact hspan e' (List.mem_cons_of_mem _ he')

/-- The edited bytes of a document are the ordered splice of its source, if its replacements hold
    bytes and no two of them meet. -/
theorem Document.edited_eq_patch {d : Document} {ordered : List Edit}
    (hperm : ordered.Perm d.edits)
    (hspan : ∀ e ∈ ordered, e.span.start < e.span.stop ∧ e.span.stop ≤ d.source.length)
    (hord : ordered.Pairwise fun a b => a.span.stop ≤ b.span.start) :
    d.edited = d.source.patch ordered := by
  have hstarts : ordered.Pairwise fun a b => a.span.start < b.span.start := by
    refine hord.imp_of_mem fun {a b} ha _ hab => ?_
    have := hspan a ha
    omega
  have hin : InOrder d.source.length 0 ordered := by
    refine inOrder_of_pairwise (Nat.zero_le _) (fun _ _ => Nat.zero_le _) ?_ hord
    intro e he
    have := hspan e he
    omega
  unfold Document.edited
  rw [fromTheEnd_eq_reverse hperm hstarts, applyEdits_reverse hin, List.take_zero, List.nil_append]
  rfl

/-- If all replacements begin and end at boundaries and put in text, the ordered splice is text. -/
theorem isText_patchFrom {bs : Bytes} {pos : Nat} {es : List Edit}
    (h : InOrder bs.length pos es) (hpos : Utf8.Boundary bs pos)
    (hes : ∀ e ∈ es, Utf8.Boundary bs e.span.start ∧ Utf8.Boundary bs e.span.stop ∧
      Utf8.IsText e.text) :
    Utf8.IsText (bs.patchFrom pos es) := by
  induction h with
  | nil => exact hpos.after
  | @cons pos e es hle hspan _ ih =>
    obtain ⟨hstart, hstop, htext⟩ := hes e List.mem_cons_self
    have hgap := hpos.isText_slice hstart hle
    have hrest := ih hstop fun e' he' => hes e' (List.mem_cons_of_mem _ he')
    exact (hgap.append htext).append hrest

/-! ## Insertions

    An insertion is written as an edit whose text comes *behind* its span. -/

/-- The replacement that keeps a span and puts a text behind it. -/
def Edit.behind (bs : Bytes) (e : Edit) : Edit :=
  ⟨e.span, bs.slice e.span ++ e.text⟩

/-- Where the texts of insertions come to stand, if so many bytes were inserted before them. -/
def insertionSpans (shift : Nat) : List Edit → List Span
  | [] => []
  | e :: es =>
    ⟨e.span.stop + shift, e.span.stop + shift + e.text.length⟩ ::
      insertionSpans (shift + e.text.length) es

/-- The patched text of insertions: the inserted texts stand in it, in order, and without them it is
    the source again. The text before the first insertion is arbitrary, so that the induction can
    move on behind each of them. -/
theorem insertions_spec {bs : Bytes} {pos : Nat} {es : List Edit} (h : InOrder bs.length pos es)
    {front : Bytes} {shift : Nat} (hfront : front.length = pos + shift) :
    let out := front ++ bs.patchFrom pos (es.map (Edit.behind bs))
    (insertionSpans shift es).map out.slice = es.map Edit.text ∧
    out.patchFrom (pos + shift) ((insertionSpans shift es).map fun s => ⟨s, []⟩) = bs.drop pos := by
  induction h generalizing front shift with
  | nil => simp [insertionSpans, Bytes.patchFrom, ← hfront]
  | @cons pos e es hpos hspan hrest ih =>
    intro out
    have hstop := hrest.pos_le
    have hkept : (bs.slice ⟨pos, e.span.stop⟩).length = e.span.stop - pos :=
      Bytes.length_slice hstop
    -- The text up to the end of the first insertion is the front for the others.
    have hout : out = front ++ bs.slice ⟨pos, e.span.stop⟩ ++ e.text ++
        bs.patchFrom e.span.stop (es.map (Edit.behind bs)) := by
      have hjoin := bs.slice_append_slice hpos hspan
      simp only [out, List.map_cons, Bytes.patchFrom, Edit.behind, ← hjoin, List.append_assoc]
    have hlen : (front ++ bs.slice ⟨pos, e.span.stop⟩ ++ e.text).length =
        e.span.stop + (shift + e.text.length) := by
      simp only [List.length_append, hfront, hkept]
      omega
    obtain ⟨htexts, hrestored⟩ := ih hlen
    rw [← hout] at htexts hrestored
    have htext : out.slice ⟨e.span.stop + shift, e.span.stop + shift + e.text.length⟩ = e.text := by
      rw [hout]
      refine Bytes.slice_append_middle (front ++ bs.slice ⟨pos, e.span.stop⟩) _ _ ?_ ?_
      · simp only [List.length_append, hfront, hkept]
        omega
      · simp only [List.length_append, hfront, hkept]
        omega
    have hgap : out.slice ⟨pos + shift, e.span.stop + shift⟩ = bs.slice ⟨pos, e.span.stop⟩ := by
      rw [hout, List.append_assoc]
      refine Bytes.slice_append_middle front _ _ hfront ?_
      rw [hfront, hkept]
      omega
    constructor
    · simp only [insertionSpans, List.map_cons, htext, htexts]
    · simp only [insertionSpans, List.map_cons, Bytes.patchFrom, hgap, List.append_nil]
      rw [Nat.add_assoc, hrestored]
      exact bs.slice_append_drop (Nat.le_trans hpos hspan)

/-- The inserted texts stand one after the other. -/
theorem insertionSpans_pairwise {size pos shift : Nat} {es : List Edit} (h : InOrder size pos es) :
    (insertionSpans shift es).Pairwise (fun a b => a.stop ≤ b.start) ∧
    ∀ s ∈ insertionSpans shift es, pos + shift ≤ s.start := by
  induction h generalizing shift with
  | nil => simp [insertionSpans]
  | @cons pos e es hpos hspan _ ih =>
    obtain ⟨hpair, hfrom⟩ := @ih (shift + e.text.length)
    simp only [insertionSpans, List.pairwise_cons, List.mem_cons]
    refine ⟨⟨?_, hpair⟩, ?_⟩
    · intro s hs
      have := hfrom s hs
      show e.span.stop + shift + e.text.length ≤ s.start
      omega
    · rintro s (rfl | hs)
      · show pos + shift ≤ e.span.stop + shift
        omega
      · have := hfrom s hs
        omega

end ArityFill
