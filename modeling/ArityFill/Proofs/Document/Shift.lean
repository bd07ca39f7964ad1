import ArityFill.Proofs.Document.Patch
import Mathlib.Algebra.GroupWithZero.Nat
import Mathlib.Data.List.TakeWhile

/-! # How insertions move the bytes around them

    Insertions that stand in order move every byte of a text to the right by what was inserted
    before it: the byte at `x` comes to stand at `shifted es x`. An offset that lies inside no span
    cuts the patched text in two (`patch_cut`). What stands behind the cut is the rest of the text
    with the remaining insertions, and what stands before it is the patched front of the text.

    From this follows what somebody sees who looks at the patched text from a moved offset:

    - `slice_shifted`: the bytes of a span without insertions,
    - `nextSolid?_shifted`: the same next solid byte,
    - `lastSolid?_shifted_iff`: the same answer to whether some byte is the last solid one before,
      if neither a span nor an inserted text ends with it.
-/

namespace ArityFill

/-! ## Solid bytes -/

namespace Bytes

/-- The first byte that is no blank. -/
def firstSolid? (bs : Bytes) : Option UInt8 :=
  bs.nextSolid? 0

/-- The last byte that is no blank. -/
def finalSolid? (bs : Bytes) : Option UInt8 :=
  bs.lastSolid? bs.length

theorem firstSolid?_eq_find? (bs : Bytes) : bs.firstSolid? = bs.find? fun b => !isBlank b := by
  rw [List.find?_not_eq_head?_dropWhile]
  rfl

theorem finalSolid?_eq_find? (bs : Bytes) :
    bs.finalSolid? = bs.reverse.find? fun b => !isBlank b := by
  rw [List.find?_not_eq_head?_dropWhile, finalSolid?, lastSolid?, solidBefore, List.take_length]

theorem nextSolid?_eq_firstSolid? (bs : Bytes) (x : Nat) :
    bs.nextSolid? x = firstSolid? (bs.drop x) :=
  rfl

theorem lastSolid?_eq_finalSolid? (bs : Bytes) (x : Nat) :
    bs.lastSolid? x = finalSolid? (bs.take x) := by
  rw [finalSolid?, lastSolid?, lastSolid?, solidBefore, solidBefore, List.take_length]

theorem firstSolid?_append (as bs : Bytes) :
    firstSolid? (as ++ bs) = as.firstSolid?.or bs.firstSolid? := by
  simp only [firstSolid?_eq_find?, List.find?_append]

theorem finalSolid?_append (as bs : Bytes) :
    finalSolid? (as ++ bs) = bs.finalSolid?.or as.finalSolid? := by
  simp only [finalSolid?_eq_find?, List.reverse_append, List.find?_append]

theorem firstSolid?_append_of_isSome {as bs : Bytes} (h : as.firstSolid?.isSome) :
    firstSolid? (as ++ bs) = as.firstSolid? := by
  rw [firstSolid?_append, Option.or_of_isSome h]

theorem finalSolid?_append_of_some {as bs : Bytes} {b : UInt8} (h : bs.finalSolid? = some b) :
    finalSolid? (as ++ bs) = some b := by
  rw [finalSolid?_append, h, Option.some_or]

/-- A text has a first solid byte exactly if it has a last one. -/
theorem firstSolid?_isSome (bs : Bytes) : bs.firstSolid?.isSome = bs.finalSolid?.isSome := by
  simp only [firstSolid?_eq_find?, finalSolid?_eq_find?, List.isSome_find?, List.any_reverse]

/-- Shortening a text behind a slice does not change the slice. -/
theorem slice_take (bs : Bytes) {s : Span} {x : Nat} (h : s.stop ≤ x) :
    slice (bs.take x) s = bs.slice s := by
  simp only [slice, List.drop_take, List.take_take]
  congr 1
  omega

end Bytes

/-! ## Cutting replacements in two -/

/-- Neither end of a span lies inside another span with which it shares no byte. -/
theorem Span.Disjoint.cut {s t : Span} (h : s.Disjoint t) (hle : s.start ≤ s.stop) :
    (t.stop ≤ s.start ∨ s.start ≤ t.start) ∧ (t.stop ≤ s.stop ∨ s.stop ≤ t.start) := by
  rcases h with h | h
  · exact ⟨.inr (Nat.le_trans hle h), .inr h⟩
  · exact ⟨.inl h, .inl (Nat.le_trans h hle)⟩

theorem InOrder.mem {size pos : Nat} {es : List Edit} (h : InOrder size pos es) {e : Edit}
    (he : e ∈ es) : pos ≤ e.span.start ∧ e.span.start ≤ e.span.stop ∧ e.span.stop ≤ size := by
  induction h with
  | nil => cases he
  | cons hpos hspan hrest ih =>
    rcases List.mem_cons.mp he with rfl | he
    · exact ⟨hpos, hspan, hrest.pos_le⟩
    · have := ih he
      exact ⟨by omega, this.2⟩

/-- Replacements in order can be seen from any offset that is before them. -/
theorem InOrder.advance {size pos x : Nat} {es : List Edit} (h : InOrder size pos es)
    (hx : x ≤ size) (hfrom : ∀ e ∈ es, x ≤ e.span.start) : InOrder size x es := by
  cases h with
  | nil => exact .nil hx
  | cons _ hspan hrest => exact .cons (hfrom _ List.mem_cons_self) hspan hrest

/-- Before a replacement are those that it follows, and from its start on are it and the others. -/
theorem InOrder.of_append_cons {size pos : Nat} {before after : List Edit} {e : Edit}
    (h : InOrder size pos (before ++ e :: after)) :
    InOrder e.span.start pos before ∧ InOrder size e.span.start (e :: after) := by
  induction before generalizing pos with
  | nil =>
    cases h with
    | cons hpos hspan hrest => exact ⟨.nil hpos, .cons (Nat.le_refl _) hspan hrest⟩
  | cons _ before ih =>
    cases h with
    | cons hpos hspan hrest =>
      obtain ⟨hbefore, hafter⟩ := ih hrest
      exact ⟨.cons hpos hspan hbefore, hafter⟩

/-- An offset that lies inside no span has some replacements before it and the others behind. -/
theorem InOrder.exists_cut {size pos x : Nat} {es : List Edit} (h : InOrder size pos es)
    (hpos : pos ≤ x) (hx : x ≤ size)
    (hcut : ∀ e ∈ es, e.span.stop ≤ x ∨ x ≤ e.span.start) :
    ∃ before after, es = before ++ after ∧ InOrder x pos before ∧ InOrder size x after := by
  induction h with
  | nil => exact ⟨[], [], rfl, .nil hpos, .nil hx⟩
  | @cons pos e es hstart hspan hrest ih =>
    rcases hcut e List.mem_cons_self with hstop | hfrom
    · -- It ends before the offset, so the cut is somewhere among the others.
      obtain ⟨before, after, rfl, hbefore, hafter⟩ :=
        ih hstop fun e' he' => hcut e' (List.mem_cons_of_mem _ he')
      exact ⟨e :: before, after, rfl, .cons hstart hspan hbefore, hafter⟩
    · -- It begins behind the offset, and so do all others.
      exact ⟨[], e :: es, rfl, .nil hpos, .cons hfrom hspan hrest⟩

namespace Bytes

/-- Up to the first replacement stands the source. -/
theorem patchFrom_eq_slice_append (bs : Bytes) {size pos x : Nat} {es : List Edit} (hpos : pos ≤ x)
    (h : InOrder size x es) : bs.patchFrom pos es = bs.slice ⟨pos, x⟩ ++ bs.patchFrom x es := by
  cases h with
  | nil => exact (bs.slice_append_drop hpos).symm
  | cons hstart =>
    simp only [patchFrom, ← List.append_assoc]
    rw [bs.slice_append_slice hpos hstart]

/-- The ordered splice up to an offset does not depend on the text behind it, and behind it goes on
    with the remaining replacements. -/
theorem patchFrom_append (bs : Bytes) {size pos x : Nat} {before after : List Edit}
    (hbefore : InOrder x pos before) (hafter : InOrder size x after) :
    bs.patchFrom pos (before ++ after) =
      patchFrom (bs.take x) pos before ++ bs.patchFrom x after := by
  -- The induction is on what comes before the offset. It ends with the bytes up to the offset,
  -- which the shortened text still has.
  induction hbefore with
  | nil hpos =>
    rw [List.nil_append, bs.patchFrom_eq_slice_append hpos hafter, patchFrom, List.drop_take]
    rfl
  | @cons pos e es hstart hspan hrest ih =>
    have hstop := hrest.pos_le
    rw [List.cons_append, patchFrom, patchFrom, ih, bs.slice_take (Nat.le_trans hspan hstop)]
    simp only [List.append_assoc]

end Bytes

/-! ## Insertions -/

/-- How many bytes are inserted behind spans that end at or before an offset. -/
def insertedUpTo (es : List Edit) (x : Nat) : Nat :=
  ((es.filter fun e => e.span.stop ≤ x).map fun e => e.text.length).sum

/-- Where an offset of a text moves to when insertions are made. -/
def shifted (es : List Edit) (x : Nat) : Nat :=
  x + insertedUpTo es x

/-- The span between two moved offsets. -/
def Span.map (f : Nat → Nat) (s : Span) : Span :=
  ⟨f s.start, f s.stop⟩

theorem Edit.behind_take (bs : Bytes) {e : Edit} {x : Nat} (h : e.span.stop ≤ x) :
    Edit.behind (bs.take x) e = Edit.behind bs e := by
  rw [Edit.behind, bs.slice_take h, Edit.behind]

theorem InOrder.map_behind {size pos : Nat} {es : List Edit} (bs : Bytes)
    (h : InOrder size pos es) : InOrder size pos (es.map (Edit.behind bs)) := by
  induction h with
  | nil hpos => exact .nil hpos
  | cons hpos hspan _ ih => exact .cons hpos hspan ih

/-- Insertions make a text longer by what they insert. -/
theorem length_patchFrom_behind {bs : Bytes} {pos : Nat} {es : List Edit}
    (h : InOrder bs.length pos es) :
    (bs.patchFrom pos (es.map (Edit.behind bs))).length =
      bs.length - pos + (es.map fun e => e.text.length).sum := by
  induction h with
  | nil => simp [Bytes.patchFrom]
  | @cons pos e es hpos hspan hrest ih =>
    have hstop := hrest.pos_le
    have hgap : (bs.slice ⟨pos, e.span.start⟩).length = e.span.start - pos :=
      Bytes.length_slice (Nat.le_trans hspan hstop)
    have hkept : (bs.slice e.span).length = e.span.stop - e.span.start := Bytes.length_slice hstop
    simp only [List.map_cons, Bytes.patchFrom, Edit.behind, List.length_append, hgap, hkept, ih,
      List.sum_cons]
    omega

/-- What the insertions before a cut have inserted, if all spans hold bytes. -/
theorem insertedUpTo_append {size pos x : Nat} {before after : List Edit}
    (hbefore : InOrder x pos before) (hafter : InOrder size x after)
    (hfull : ∀ e ∈ after, e.span.start < e.span.stop) :
    insertedUpTo (before ++ after) x = (before.map fun e => e.text.length).sum := by
  have hall : (before.filter fun e => e.span.stop ≤ x) = before := by
    rw [List.filter_eq_self]
    intro e he
    simpa using (hbefore.mem he).2.2
  have hnone : (after.filter fun e => e.span.stop ≤ x) = [] := by
    rw [List.filter_eq_nil_iff]
    intro e he
    have := (hafter.mem he).1
    have := hfull e he
    simp only [decide_eq_true_eq]
    omega
  rw [insertedUpTo, List.filter_append, hall, hnone, List.append_nil]

/-- What stands before an offset in the patched text: at the end the bytes since the last span, and
    before them the text that was inserted there. -/
theorem Bytes.patch_concat_behind (bs : Bytes) {x : Nat} {init : List Edit} {e : Edit}
    (h : InOrder x 0 (init ++ [e])) :
    ∃ front, Bytes.patch (bs.take x) ((init ++ [e]).map (Edit.behind bs)) =
      front ++ bs.slice e.span ++ e.text ++ bs.slice ⟨e.span.stop, x⟩ := by
  obtain ⟨hinit, hlast⟩ := h.of_append_cons
  refine ⟨Bytes.patch ((bs.take x).take e.span.start) (init.map (Edit.behind bs)), ?_⟩
  rw [List.map_append, Bytes.patch,
    Bytes.patchFrom_append _ (hinit.map_behind bs) (hlast.map_behind bs)]
  have hgap : Bytes.slice (bs.take x) ⟨e.span.start, e.span.start⟩ = [] := by
    simp [Bytes.slice]
  simp only [List.map_cons, List.map_nil, Bytes.patchFrom, Edit.behind, hgap, List.drop_take,
    List.nil_append, List.append_assoc]
  rfl

section
variable {bs : Bytes} {es : List Edit} (h : InOrder bs.length 0 es)
  (hfull : ∀ e ∈ es, e.span.start < e.span.stop)
include h hfull

/-- **Cutting the patched text.** An offset inside no span divides the insertions. The patched text
    is the patched front of the source, which ends where the offset has moved to, and then the rest
    of the source with the other insertions. -/
theorem patch_cut {x : Nat} (hx : x ≤ bs.length)
    (hcut : ∀ e ∈ es, e.span.stop ≤ x ∨ x ≤ e.span.start) :
    ∃ before after, es = before ++ after ∧ InOrder x 0 before ∧ InOrder bs.length x after ∧
      let front := Bytes.patch (bs.take x) (before.map (Edit.behind bs))
      front.length = shifted es x ∧
      bs.patch (es.map (Edit.behind bs)) =
        front ++ bs.patchFrom x (after.map (Edit.behind bs)) := by
  obtain ⟨before, after, rfl, hbefore, hafter⟩ := h.exists_cut (Nat.zero_le x) hx hcut
  refine ⟨before, after, rfl, hbefore, hafter, ?_, ?_⟩
  · -- Before the cut it does not matter whether the source goes on.
    have htake : before.map (Edit.behind bs) = before.map (Edit.behind (bs.take x)) := by
      apply List.map_congr_left
      intro e he
      exact (Edit.behind_take bs (hbefore.mem he).2.2).symm
    have hlen : (bs.take x).length = x := by
      rw [List.length_take]
      omega
    have hfront := @length_patchFrom_behind (bs.take x) 0 before (by rw [hlen]; exact hbefore)
    rw [htake, Bytes.patch, hfront, hlen, shifted, insertedUpTo_append hbefore hafter
      fun e he => hfull e (List.mem_append_right _ he)]
    rfl
  · rw [List.map_append]
    exact bs.patchFrom_append (hbefore.map_behind bs) (hafter.map_behind bs)

/-- A span without insertions moves as a whole. -/
theorem slice_shifted {s : Span} (hle : s.start ≤ s.stop) (hstop : s.stop ≤ bs.length)
    (hdis : ∀ e ∈ es, s.Disjoint e.span) :
    (bs.patch (es.map (Edit.behind bs))).slice (s.map (shifted es)) = bs.slice s := by
  obtain ⟨before, after, rfl, -, hafter, hlen, hpatch⟩ :=
    patch_cut h hfull (Nat.le_trans hle hstop) fun e he => ((hdis e he).cut hle).1
  -- The insertions that begin behind the start of the span begin behind its end.
  have hfrom : ∀ e ∈ after, s.stop ≤ e.span.start := by
    intro e he
    have hstart := (hafter.mem he).1
    have hbytes := hfull e (List.mem_append_right _ he)
    rcases hdis e (List.mem_append_right _ he) with hs | hs
    · exact hs
    · omega
  -- So nothing is inserted between its ends.
  have hsame : insertedUpTo (before ++ after) s.stop = insertedUpTo (before ++ after) s.start := by
    unfold insertedUpTo
    congr 2
    apply List.filter_congr
    intro e he
    have hbytes := hfull e he
    rw [decide_eq_decide]
    rcases hdis e he with hs | hs
    · omega
    · omega
  rw [hpatch, bs.patchFrom_eq_slice_append hle ((hafter.advance hstop hfrom).map_behind bs),
    ← List.append_assoc]
  apply Bytes.slice_append_middle
  · exact hlen
  · rw [hlen, Bytes.length_slice hstop]
    simp only [shifted, hsame]
    omega

/-- From a moved offset the same next solid byte is seen, if every span holds one: insertions come
    behind their spans, so the source is looked at first. -/
theorem nextSolid?_shifted (hsolid : ∀ e ∈ es, (bs.slice e.span).finalSolid?.isSome) {x : Nat}
    (hx : x ≤ bs.length) (hcut : ∀ e ∈ es, e.span.stop ≤ x ∨ x ≤ e.span.start) :
    (bs.patch (es.map (Edit.behind bs))).nextSolid? (shifted es x) = bs.nextSolid? x := by
  obtain ⟨before, after, rfl, -, hafter, hlen, hpatch⟩ := patch_cut h hfull hx hcut
  rw [Bytes.nextSolid?_eq_firstSolid?, Bytes.nextSolid?_eq_firstSolid?, hpatch,
    List.drop_left' hlen]
  cases hafter with
  | nil => rfl
  | @cons _ e after hstart hspan _ =>
    -- Both texts go on with the bytes up to the end of the next span, and one of these is solid.
    have hdrop : bs.drop x =
        bs.slice ⟨x, e.span.start⟩ ++ bs.slice e.span ++ bs.drop e.span.stop := by
      rw [bs.slice_append_slice hstart hspan, bs.slice_append_drop (Nat.le_trans hstart hspan)]
    have hsome : (Bytes.firstSolid? (bs.slice ⟨x, e.span.start⟩ ++ bs.slice e.span)).isSome := by
      have := hsolid e (List.mem_append_right _ List.mem_cons_self)
      rw [Bytes.firstSolid?_append, Option.isSome_or, Bytes.firstSolid?_isSome (bs.slice e.span),
        this, Bool.or_true]
    rw [hdrop, List.map_cons, Bytes.patchFrom, Edit.behind]
    simp only [← List.append_assoc]
    rw [List.append_assoc _ e.text, Bytes.firstSolid?_append_of_isSome hsome,
      Bytes.firstSolid?_append_of_isSome hsome]

/-- A byte with which neither a span nor an inserted text ends is the last solid one before a moved
    offset exactly if it was before. -/
theorem lastSolid?_shifted_iff {c : UInt8}
    (hspans : ∀ e ∈ es, ∃ b, (bs.slice e.span).finalSolid? = some b ∧ b ≠ c)
    (htexts : ∀ e ∈ es, ∃ b, e.text.finalSolid? = some b ∧ b ≠ c) {x : Nat}
    (hx : x ≤ bs.length) (hcut : ∀ e ∈ es, e.span.stop ≤ x ∨ x ≤ e.span.start) :
    (bs.patch (es.map (Edit.behind bs))).lastSolid? (shifted es x) = some c ↔
      bs.lastSolid? x = some c := by
  obtain ⟨before, after, rfl, hbefore, -, hlen, hpatch⟩ := patch_cut h hfull hx hcut
  rw [Bytes.lastSolid?_eq_finalSolid?, Bytes.lastSolid?_eq_finalSolid?, hpatch,
    List.take_left' hlen]
  rcases List.eq_nil_or_concat before with rfl | ⟨init, e, rfl⟩
  · rfl
  · -- Between the last span before the offset and the offset itself nothing has changed. Only if
    -- there are but blanks, the source shows the end of the span and the patched text that of the
    -- inserted text.
    rw [List.concat_eq_append] at *
    have he : e ∈ init ++ [e] ++ after := by simp
    obtain ⟨b, hb, hbc⟩ := hspans e he
    obtain ⟨b', hb', hbc'⟩ := htexts e he
    obtain ⟨-, hspan, hstop⟩ := hbefore.mem (List.mem_append_right _ List.mem_cons_self)
    have hold : bs.take x =
        bs.take e.span.start ++ bs.slice e.span ++ bs.slice ⟨e.span.stop, x⟩ := by
      rw [bs.take_append_slice hspan, bs.take_append_slice hstop]
    obtain ⟨front, hnew⟩ := bs.patch_concat_behind hbefore
    rw [hnew, hold, Bytes.finalSolid?_append, Bytes.finalSolid?_append _ (bs.slice ⟨_, x⟩),
      Bytes.finalSolid?_append_of_some hb, Bytes.finalSolid?_append_of_some hb']
    cases Bytes.finalSolid? (bs.slice ⟨e.span.stop, x⟩) with
    | some _ => rfl
    | none => simp [hbc, hbc']

end

/-! ## Beyond the end

    A span may reach beyond the end of the text. If spans hold bytes and stand in order, only the
    last of them can, and cutting it off at the end changes nothing. -/

/-- The replacement of what a span covers of a text of some size. -/
def Edit.within (size : Nat) (e : Edit) : Edit :=
  ⟨⟨e.span.start, min e.span.stop size⟩, e.text⟩

theorem Edit.within_eq_self {size : Nat} {e : Edit} (h : e.span.stop ≤ size) :
    e.within size = e := by
  rw [within, Nat.min_eq_left h]

theorem Bytes.slice_within (bs : Bytes) (e : Edit) :
    bs.slice (e.within bs.length).span = bs.slice e.span := by
  simp only [slice, Edit.within, List.take_eq_take_iff, List.length_drop]
  omega

theorem Edit.behind_within (bs : Bytes) (e : Edit) :
    Edit.behind bs (e.within bs.length) = (Edit.behind bs e).within bs.length := by
  rw [behind, bs.slice_within, behind]
  rfl

theorem Bytes.splice_within (bs : Bytes) (e : Edit) :
    bs.splice (e.within bs.length).span e.text = bs.splice e.span e.text := by
  rcases Nat.le_total e.span.stop bs.length with h | h
  · rw [Edit.within_eq_self h]
  · -- From the end of the text on there is nothing left to keep.
    have hnil : bs.drop (max e.span.start bs.length) = bs.drop (max e.span.start e.span.stop) := by
      rw [List.drop_eq_nil_of_le (Nat.le_max_right _ _), List.drop_eq_nil_of_le (by omega)]
    rw [splice, splice, Edit.within, Nat.min_eq_right h, hnil]

/-- Replacements in order that begin inside the text do the same if they are cut off at its end. -/
theorem applyEdits_reverse_within {bs : Bytes} {es : List Edit}
    (hstart : ∀ e ∈ es, e.span.start < bs.length)
    (hord : es.Pairwise fun a b => a.span.stop ≤ b.span.start) :
    applyEdits bs (es.map (Edit.within bs.length)).reverse = applyEdits bs es.reverse := by
  induction es with
  | nil => rfl
  | cons e es ih =>
    rw [List.pairwise_cons] at hord
    have hrest := ih (fun e' he' => hstart e' (List.mem_cons_of_mem _ he')) hord.2
    have hstep : ∀ (e : Edit) (es : List Edit), applyEdits bs (e :: es).reverse =
        (applyEdits bs es.reverse).splice e.span e.text := by
      intro e es
      simp [applyEdits]
    rw [List.map_cons, hstep, hstep, hrest]
    cases es with
    | nil => exact bs.splice_within e
    | cons e' es =>
      -- Another one begins behind it, so it ends inside the text.
      have hnext := hord.1 e' List.mem_cons_self
      have hinside := hstart e' (List.mem_cons_of_mem _ List.mem_cons_self)
      rw [Edit.within_eq_self (by omega)]

/-- Replacements in order that begin inside the text are in order within it. -/
theorem inOrder_within {size : Nat} {es : List Edit}
    (hfull : ∀ e ∈ es, e.span.start < e.span.stop) (hstart : ∀ e ∈ es, e.span.start < size)
    (hord : es.Pairwise fun a b => a.span.stop ≤ b.span.start) :
    InOrder size 0 (es.map (Edit.within size)) := by
  apply inOrder_of_pairwise (Nat.zero_le _) (fun _ _ => Nat.zero_le _)
  · intro _ hmem
    obtain ⟨e, he, rfl⟩ := List.mem_map.mp hmem
    have hbytes := hfull e he
    have hinside := hstart e he
    show e.span.start ≤ min e.span.stop size ∧ min e.span.stop size ≤ size
    omega
  · rw [List.pairwise_map]
    refine hord.imp fun {a b} hab => ?_
    show min a.span.stop size ≤ b.span.start
    omega

/-- Insertions that were asked for in any order, as the ordered splice. -/
theorem applyEdits_insertions {bs : Bytes} {es ordered : List Edit} (hperm : ordered.Perm es)
    (hfull : ∀ e ∈ ordered, e.span.start < e.span.stop)
    (hstart : ∀ e ∈ ordered, e.span.start < bs.length)
    (hord : ordered.Pairwise fun a b => a.span.stop ≤ b.span.start) :
    applyEdits bs (fromTheEnd (es.map (Edit.behind bs))) =
      bs.patch ((ordered.map (Edit.within bs.length)).map (Edit.behind bs)) := by
  have hstarts : (ordered.map (Edit.behind bs)).Pairwise
      fun a b => a.span.start < b.span.start := by
    rw [List.pairwise_map]
    refine hord.imp_of_mem fun {a b} ha _ hab => ?_
    have := hfull a ha
    show a.span.start < b.span.start
    omega
  have hwithin : (ordered.map (Edit.within bs.length)).map (Edit.behind bs) =
      (ordered.map (Edit.behind bs)).map (Edit.within bs.length) := by
    rw [List.map_map, List.map_map]
    exact List.map_congr_left fun e _ => Edit.behind_within bs e
  have hin := (inOrder_within hfull hstart hord).map_behind bs
  rw [fromTheEnd_eq_reverse (hperm.map _) hstarts, ← applyEdits_reverse_within, ← hwithin,
    applyEdits_reverse hin, List.take_zero, List.nil_append]
  · rfl
  · intro _ hmem
    obtain ⟨e, he, rfl⟩ := List.mem_map.mp hmem
    exact hstart e he
  · rw [List.pairwise_map]
    exact hord

/-- Offsets that lie inside no span move alike. -/
theorem shifted_within {size x : Nat} {es : List Edit} (hstart : ∀ e ∈ es, e.span.start < size)
    (hx : x ≤ size) (hcut : ∀ e ∈ es, e.span.stop ≤ x ∨ x ≤ e.span.start) :
    shifted (es.map (Edit.within size)) x = shifted es x := by
  have hfilter : (es.filter fun e => (e.within size).span.stop ≤ x) =
      es.filter fun e => e.span.stop ≤ x := by
    apply List.filter_congr
    intro e he
    have hin := hstart e he
    rw [decide_eq_decide]
    show min e.span.stop size ≤ x ↔ e.span.stop ≤ x
    -- At the end of the text it matters that no span reaches beyond it with the offset inside.
    rcases hcut e he with h | h
    · omega
    · omega
  unfold shifted insertedUpTo
  rw [List.filter_map, List.map_map]
  exact congrArg (fun l => x + (l.map fun e : Edit => e.text.length).sum) hfilter

theorem shifted_perm {es es' : List Edit} (h : es.Perm es') (x : Nat) :
    shifted es x = shifted es' x := by
  unfold shifted insertedUpTo
  rw [((h.filter _).map _).sum_nat]

end ArityFill
