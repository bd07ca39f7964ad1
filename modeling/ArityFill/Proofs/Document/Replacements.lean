import ArityFill.Proofs.Document.Patch
import Mathlib.Algebra.BigOperators.Group.List.Basic
import Mathlib.Algebra.GroupWithZero.Nat
import Mathlib.Data.List.Pairwise

/-! # Replacements as they are asked for

    Replacements are asked for in any order, and those that overlap an earlier one are refused. What
    is recorded never overlaps (`Orderly.requestAll`), but spans without bytes slip through: at one
    offset there can be any number of insertions, and a replacement of the bytes that follow.

    A reader expects the insertions before the replaced bytes. The library makes replacements from
    the end, and those with one start in the order in which they were asked for. So everything hangs
    on the ties:

    - `fromTheEnd_eq_reverse_readingOrder`: if insertions were asked for after the replacement that
      begins where they are, then making replacements from the end is reading them backwards,
    - `edited_ignores_inserted_byte`: if not, then the replacement removes what was inserted.

    `Document.edited_in_order_iff` puts the two together.
-/

namespace ArityFill

/-! ## Asking for replacements -/

theorem Span.overlaps_comm (a b : Span) : a.overlaps b = b.overlaps a := by
  simp only [Span.overlaps, decide_eq_decide]
  exact And.comm

namespace Document

/-- The document after the replacement of a node was asked for. One that is refused leaves it as it
    was. -/
def request (d : Document) (call : Node × String) : Document :=
  match d.replace call.1 call.2 with
  | .ok d' => d'
  | .error _ => d

/-- The document after some replacements were asked for. -/
def requestAll (d : Document) (calls : List (Node × String)) : Document :=
  calls.foldl request d

/-- A document whose replacements are inside its source and do not overlap. -/
structure Orderly (d : Document) : Prop where
  /-- Every replacement is of bytes of the source, or inserts something between two of them. -/
  inside : ∀ e ∈ d.edits, e.span.start ≤ e.span.stop ∧ e.span.stop ≤ d.source.length
  /-- No two overlap. -/
  apart : d.edits.Pairwise fun a b => a.span.overlaps b.span = false

/-- A replacement is refused exactly if it overlaps an earlier one, and the fault names the first
    that it overlaps. -/
theorem replace_cases (d : Document) (n : Node) (text : String) :
    (∃ e ∈ d.edits, n.span.overlaps e.span = true ∧
      d.replace n text = .error (.overlap n.span e.span)) ∨
    (∀ e ∈ d.edits, n.span.overlaps e.span = false) ∧
      d.replace n text = .ok { d with edits := d.edits ++ [⟨n.span, Utf8.ofString text⟩] } := by
  unfold replace
  cases hfind : d.edits.find? fun e => n.span.overlaps e.span with
  | some e =>
    have hoverlaps := List.find?_some hfind
    exact .inl ⟨e, List.mem_of_find?_eq_some hfind, hoverlaps, rfl⟩
  | none =>
    refine .inr ⟨fun e he => ?_, rfl⟩
    have := List.find?_eq_none.mp hfind e he
    simpa using this

@[simp] theorem request_source (d : Document) (call : Node × String) :
    (d.request call).source = d.source := by
  unfold request
  rcases d.replace_cases call.1 call.2 with ⟨e, _, _, h⟩ | ⟨_, h⟩
  · rw [h]
  · rw [h]

@[simp] theorem requestAll_source (d : Document) (calls : List (Node × String)) :
    (d.requestAll calls).source = d.source := by
  induction calls generalizing d with
  | nil => rfl
  | cons call calls ih => exact (ih (d.request call)).trans (d.request_source call)

/-- Asking for one replacement more keeps a document orderly. -/
theorem Orderly.request {d : Document} (h : d.Orderly) {call : Node × String}
    (hinside : call.1.span.start ≤ call.1.span.stop ∧ call.1.span.stop ≤ d.source.length) :
    (d.request call).Orderly := by
  unfold Document.request
  rcases d.replace_cases call.1 call.2 with ⟨e, _, _, hreplace⟩ | ⟨hfree, hreplace⟩
  · rw [hreplace]
    exact h
  · rw [hreplace]
    refine ⟨?_, ?_⟩
    · intro e he
      rcases List.mem_append.mp he with he | he
      · exact h.inside e he
      · rw [List.mem_singleton.mp he]
        exact hinside
    · rw [List.pairwise_append]
      refine ⟨h.apart, List.pairwise_singleton _ _, ?_⟩
      intro a ha b hb
      rw [List.mem_singleton.mp hb, Span.overlaps_comm]
      exact hfree a ha

/-- Asking for replacements keeps a document orderly. -/
theorem Orderly.requestAll {d : Document} (h : d.Orderly) {calls : List (Node × String)}
    (hinside : ∀ call ∈ calls,
      call.1.span.start ≤ call.1.span.stop ∧ call.1.span.stop ≤ d.source.length) :
    (d.requestAll calls).Orderly := by
  induction calls generalizing d with
  | nil => exact h
  | cons call calls ih =>
    refine ih (h.request (hinside call List.mem_cons_self)) fun call' hcall' => ?_
    rw [request_source]
    exact hinside call' (List.mem_cons_of_mem _ hcall')

end Document

/-! ## Stable sorting -/

section
variable {α : Type}

/-- Sorting leaves alone the items of a class that stand in order already. -/
theorem filter_mergeSort {le : α → α → Bool} (htrans : ∀ a b c, le a b → le b c → le a c)
    (htotal : ∀ a b, le a b || le b a) {p : α → Bool} {as : List α}
    (hsorted : (as.filter p).Pairwise fun a b => le a b = true) :
    (as.mergeSort le).filter p = as.filter p := by
  have hsub : (as.filter p).Sublist (as.mergeSort le) :=
    List.sublist_mergeSort htrans htotal hsorted List.filter_sublist
  have hsub' := hsub.filter p
  simp only [List.filter_filter, Bool.and_self] at hsub'
  exact (hsub'.eq_of_length ((List.mergeSort_perm as le).filter p).length_eq.symm).symm

/-- Lists that are sorted by a key, and have the same items of each key in the same order, are
    equal. -/
theorem eq_of_filter_key_eq (key : α → Nat) {as bs : List α}
    (has : as.Pairwise fun a b => key b ≤ key a) (hbs : bs.Pairwise fun a b => key b ≤ key a)
    (h : ∀ k, (as.filter fun a => key a = k) = bs.filter fun b => key b = k) : as = bs := by
  induction as generalizing bs with
  | nil =>
    cases bs with
    | nil => rfl
    | cons b bs =>
      have hb := h (key b)
      simp at hb
  | cons a as ih =>
    have hmem : ∀ c, c ∈ a :: as ↔ c ∈ bs := by
      intro c
      have hiff : c ∈ ((a :: as).filter fun b => key b = key c) ↔
          c ∈ bs.filter fun b => key b = key c := by rw [h]
      simpa only [List.mem_filter, decide_true, and_true] using hiff
    cases bs with
    | nil => exact absurd ((hmem a).mp List.mem_cons_self) List.not_mem_nil
    | cons b bs =>
      rw [List.pairwise_cons] at has hbs
      -- Both heads have the largest key, and are the first with it.
      have hkey : key a = key b := by
        apply Nat.le_antisymm
        · rcases List.mem_cons.mp ((hmem a).mp List.mem_cons_self) with rfl | ha
          · exact Nat.le_refl _
          · exact hbs.1 a ha
        · rcases List.mem_cons.mp ((hmem b).mpr List.mem_cons_self) with rfl | hb
          · exact Nat.le_refl _
          · exact has.1 b hb
      have hhead := h (key a)
      rw [List.filter_cons_of_pos (by simp), List.filter_cons_of_pos (by simp [hkey])] at hhead
      obtain ⟨rfl, -⟩ := List.cons.inj hhead
      congr 1
      refine ih has.2 hbs.2 fun k => ?_
      have hk := h k
      rw [List.filter_cons, List.filter_cons] at hk
      split at hk
      · exact (List.cons.inj hk).2
      · exact hk

end

/-! ## From the end, and as one reads -/

theorem fromTheEnd_pairwise (es : List Edit) :
    (fromTheEnd es).Pairwise fun a b => b.span.start ≤ a.span.start := by
  have hsorted := @List.pairwise_mergeSort Edit (fun a b => b.span.start ≤ a.span.start)
    (fun a b c hab hbc => by simp only [decide_eq_true_eq] at *; omega)
    (fun a b => by simp only [Bool.or_eq_true, decide_eq_true_eq]; omega) es
  exact hsorted.imp fun h => of_decide_eq_true h

/-- Replacements with one start are made in the order in which they were asked for. -/
theorem filter_start_fromTheEnd (es : List Edit) (k : Nat) :
    ((fromTheEnd es).filter fun e => e.span.start = k) = es.filter fun e => e.span.start = k := by
  apply filter_mergeSort
  · intro a b c hab hbc
    simp only [decide_eq_true_eq] at *
    omega
  · intro a b
    simp only [Bool.or_eq_true, decide_eq_true_eq]
    omega
  · apply List.pairwise_of_forall_mem_list
    intro a ha b hb
    have hka : a.span.start = k := of_decide_eq_true (List.mem_filter.mp ha).2
    have hkb : b.span.start = k := of_decide_eq_true (List.mem_filter.mp hb).2
    rw [decide_eq_true_eq]
    omega

/-- Whether a reader meets a replacement no later than another one: it begins before it, or at the
    same offset and ends no later. So an insertion is met before the replacement of the bytes that
    follow it. -/
def Edit.leads (a b : Edit) : Bool :=
  a.span.start < b.span.start ∨ a.span.start = b.span.start ∧ a.span.stop ≤ b.span.stop

/-- Replacements in the order in which a reader meets them. Of insertions at one offset, the one
    that was asked for last comes first. -/
def readingOrder (es : List Edit) : List Edit :=
  es.reverse.mergeSort Edit.leads

theorem Edit.leads_trans (a b c : Edit) (hab : a.leads b) (hbc : b.leads c) : a.leads c := by
  simp only [Edit.leads, decide_eq_true_eq] at *
  omega

theorem Edit.leads_total (a b : Edit) : a.leads b || b.leads a := by
  simp only [Edit.leads, Bool.or_eq_true, decide_eq_true_eq]
  omega

theorem readingOrder_perm (es : List Edit) : (readingOrder es).Perm es :=
  (List.mergeSort_perm _ _).trans (List.reverse_perm es)

theorem readingOrder_pairwise (es : List Edit) :
    (readingOrder es).Pairwise fun a b => a.leads b = true :=
  List.pairwise_mergeSort Edit.leads_trans Edit.leads_total _

/-- If a replacement that begins where another one does was asked for first only if it ends no
    earlier, then replacements are made from the end as they are read backwards. -/
theorem fromTheEnd_eq_reverse_readingOrder {es : List Edit}
    (h : es.Pairwise fun a b => a.span.start = b.span.start → b.span.stop ≤ a.span.stop) :
    fromTheEnd es = (readingOrder es).reverse := by
  apply eq_of_filter_key_eq (fun e => e.span.start) (fromTheEnd_pairwise es)
  · rw [List.pairwise_reverse]
    refine (readingOrder_pairwise es).imp fun {a b} hab => ?_
    simp only [Edit.leads, decide_eq_true_eq] at hab
    omega
  · intro k
    -- With one start they are read in the opposite order to that in which they were asked for.
    have hties : (es.reverse.filter fun e => e.span.start = k).Pairwise
        fun a b => a.leads b = true := by
      rw [List.filter_reverse, List.pairwise_reverse]
      refine (h.filter _).imp_of_mem fun {a b} ha hb hab => ?_
      have hka : a.span.start = k := of_decide_eq_true (List.mem_filter.mp ha).2
      have hkb : b.span.start = k := of_decide_eq_true (List.mem_filter.mp hb).2
      have hstop := hab (hka.trans hkb.symm)
      simp only [Edit.leads, decide_eq_true_eq]
      omega
    rw [filter_start_fromTheEnd, List.filter_reverse, readingOrder,
      filter_mergeSort Edit.leads_trans Edit.leads_total hties, List.filter_reverse,
      List.reverse_reverse]

/-- Replacements that do not overlap stand in order as they are read. -/
theorem readingOrder_inOrder {size : Nat} {es : List Edit}
    (hinside : ∀ e ∈ es, e.span.start ≤ e.span.stop ∧ e.span.stop ≤ size)
    (hapart : es.Pairwise fun a b => a.span.overlaps b.span = false) :
    InOrder size 0 (readingOrder es) := by
  have hmem : ∀ e ∈ readingOrder es, e.span.start ≤ e.span.stop ∧ e.span.stop ≤ size :=
    fun e he => hinside e ((readingOrder_perm es).mem_iff.mp he)
  have hapart' : (readingOrder es).Pairwise fun a b => a.span.overlaps b.span = false := by
    refine (readingOrder_perm es).symm.pairwise hapart fun {a b} hab => ?_
    rw [Span.overlaps_comm]
    exact hab
  refine inOrder_of_pairwise (Nat.zero_le _) (fun _ _ => Nat.zero_le _) hmem ?_
  refine ((readingOrder_pairwise es).and hapart').imp_of_mem ?_
  rintro a b ha hb ⟨hleads, hfree⟩
  have ha' := hmem a ha
  have hb' := hmem b hb
  -- The one that is read first begins first, so the other one can only begin behind its end.
  simp only [Edit.leads, Span.overlaps, decide_eq_true_eq, decide_eq_false_iff_not] at hleads hfree
  omega

/-- Making replacements that do not overlap is the ordered splice, if insertions were asked for
    after the replacement that begins where they are. -/
theorem applyEdits_fromTheEnd {bs : Bytes} {es : List Edit}
    (hinside : ∀ e ∈ es, e.span.start ≤ e.span.stop ∧ e.span.stop ≤ bs.length)
    (hapart : es.Pairwise fun a b => a.span.overlaps b.span = false)
    (hlast : es.Pairwise fun a b => ¬ (a.span.start = a.span.stop ∧ b.span.start < b.span.stop ∧
      a.span.start = b.span.start)) :
    applyEdits bs (fromTheEnd es) = bs.patch (readingOrder es) := by
  have hties : es.Pairwise fun a b => a.span.start = b.span.start → b.span.stop ≤ a.span.stop := by
    refine (hapart.and hlast).imp_of_mem ?_
    rintro a b ha hb ⟨hfree, hfirst⟩ hstart
    have ha' := hinside a ha
    have hb' := hinside b hb
    simp only [Span.overlaps, decide_eq_false_iff_not] at hfree
    omega
  rw [fromTheEnd_eq_reverse_readingOrder hties,
    applyEdits_reverse (readingOrder_inOrder hinside hapart), List.take_zero, List.nil_append]
  rfl

/-! ## Insertions that come first -/

theorem applyEdits_append (bs : Bytes) (es fs : List Edit) :
    applyEdits bs (es ++ fs) = applyEdits (applyEdits bs es) fs := by
  simp [applyEdits]

/-- From the end come the replacements behind an offset, then those that begin there, as they were
    asked for, and then the others. -/
theorem fromTheEnd_split (es : List Edit) (k : Nat) :
    fromTheEnd es = fromTheEnd (es.filter fun e => k < e.span.start) ++
      ((es.filter fun e => e.span.start = k) ++
        fromTheEnd (es.filter fun e => e.span.start < k)) := by
  have hmem : ∀ {p : Edit → Bool} {e : Edit}, e ∈ fromTheEnd (es.filter p) → p e = true :=
    fun he => (List.mem_filter.mp (List.mem_mergeSort.mp he)).2
  apply eq_of_filter_key_eq (fun e => e.span.start) (fromTheEnd_pairwise es)
  · rw [List.pairwise_append, List.pairwise_append]
    refine ⟨fromTheEnd_pairwise _, ⟨?_, fromTheEnd_pairwise _, ?_⟩, ?_⟩
    · apply List.pairwise_of_forall_mem_list
      intro a ha b hb
      have hka : a.span.start = k := of_decide_eq_true (List.mem_filter.mp ha).2
      have hkb : b.span.start = k := of_decide_eq_true (List.mem_filter.mp hb).2
      omega
    · intro a ha b hb
      have hka : a.span.start = k := of_decide_eq_true (List.mem_filter.mp ha).2
      have hkb : b.span.start < k := of_decide_eq_true (hmem hb)
      omega
    · intro a ha b hb
      have hka : k < a.span.start := of_decide_eq_true (hmem ha)
      rcases List.mem_append.mp hb with hb | hb
      · have hkb : b.span.start = k := of_decide_eq_true (List.mem_filter.mp hb).2
        omega
      · have hkb : b.span.start < k := of_decide_eq_true (hmem hb)
        omega
  · intro i
    rw [filter_start_fromTheEnd, List.filter_append, List.filter_append, filter_start_fromTheEnd,
      filter_start_fromTheEnd]
    -- One of the three parts has all replacements that begin at an offset, the others have none.
    have hnone : ∀ {p : Edit → Bool}, (∀ e : Edit, e.span.start = i → p e = false) →
        ((es.filter p).filter fun e => e.span.start = i) = [] := by
      intro p hp
      rw [List.filter_eq_nil_iff]
      intro e he hstart
      rw [decide_eq_true_eq] at hstart
      have hpe := (List.mem_filter.mp he).2
      rw [hp e hstart] at hpe
      cases hpe
    have hall : ∀ {p : Edit → Bool}, (∀ e : Edit, e.span.start = i → p e = true) →
        ((es.filter p).filter fun e => e.span.start = i) = es.filter fun e => e.span.start = i := by
      intro p hp
      rw [List.filter_filter]
      apply List.filter_congr
      intro e _
      by_cases hstart : e.span.start = i <;> simp [hstart, hp]
    rcases Nat.lt_trichotomy i k with h | h | h
    · rw [hnone fun e he => by simp; omega, hnone fun e he => by simp; omega,
        hall fun e he => by simp; omega, List.nil_append, List.nil_append]
    · rw [hnone fun e he => by simp; omega, hall fun e he => by simp; omega,
        hnone fun e he => by simp; omega, List.nil_append, List.append_nil]
    · rw [hall fun e he => by simp; omega, hnone fun e he => by simp; omega,
        hnone fun e he => by simp; omega, List.append_nil, List.append_nil]

/-- How many bytes of a text some replacements are about. -/
def coveredBytes (es : List Edit) : Nat :=
  (es.map fun e => e.span.stop - e.span.start).sum

/-- Replacements at an offset that only take bytes away. -/
def Removals (offset : Nat) (es : List Edit) : Prop :=
  ∀ e ∈ es, e.span.start = offset ∧ e.text = []

/-- Removals at one offset take away as many bytes as they have together. -/
theorem applyEdits_removals {front : Bytes} {es : List Edit} (hes : Removals front.length es)
    (back : Bytes) :
    applyEdits (front ++ back) es = front ++ back.drop (coveredBytes es) := by
  induction es generalizing back with
  | nil => simp [applyEdits, coveredBytes]
  | cons e es ih =>
    obtain ⟨hstart, htext⟩ := hes e List.mem_cons_self
    have hsplice : Bytes.splice (front ++ back) e.span e.text =
        front ++ back.drop (e.span.stop - e.span.start) := by
      rw [Bytes.splice, htext, hstart, List.append_nil, List.take_left, List.drop_append,
        List.drop_eq_nil_of_le (Nat.le_max_left _ _), List.nil_append]
      congr 2
      omega
    show applyEdits (Bytes.splice (front ++ back) e.span e.text) es = _
    rw [hsplice, ih (fun e' he' => hes e' (List.mem_cons_of_mem _ he')), List.drop_drop]
    rfl

/-- A byte that is inserted at an offset between removals is taken away by those that follow, as if
    it were the first byte of the text behind it. -/
theorem applyEdits_insertion {front : Bytes} {es fs : List Edit} {z : Span}
    (hes : Removals front.length es) (hfs : Removals front.length fs)
    (hstart : z.start = front.length) (hstop : z.stop = front.length)
    (htaken : 0 < coveredBytes fs) (back : Bytes) (c : UInt8) :
    applyEdits (front ++ back) (es ++ ⟨z, [c]⟩ :: fs) =
      front ++ (back.drop (coveredBytes es)).drop (coveredBytes fs - 1) := by
  let left := back.drop (coveredBytes es)
  have hinsert : Bytes.splice (front ++ left) z [c] = front ++ c :: left := by
    rw [Bytes.splice, hstart, hstop, Nat.max_self, List.take_left, List.drop_left,
      List.append_assoc, List.singleton_append]
  rw [applyEdits_append, applyEdits_removals hes]
  show applyEdits (Bytes.splice (front ++ left) z [c]) fs = _
  rw [hinsert, applyEdits_removals hfs, List.drop_cons htaken]

/-- Replacements that begin at or behind an offset leave the bytes before it. -/
theorem le_length_applyEdits {bs : Bytes} {k : Nat} (hk : k ≤ bs.length) {es : List Edit}
    (hes : ∀ e ∈ es, k ≤ e.span.start) : k ≤ (applyEdits bs es).length := by
  induction es generalizing bs with
  | nil => exact hk
  | cons e es ih =>
    have hstart := hes e List.mem_cons_self
    refine ih ?_ fun e' he' => hes e' (List.mem_cons_of_mem _ he')
    simp only [Bytes.splice, List.length_append, List.length_take]
    omega

/-- A byte that was inserted before the replacement of the bytes behind it was asked for is lost, so
    it does not matter which byte it was. -/
theorem edited_ignores_inserted_byte {bs : Bytes} {front rest : List Edit} {z : Span}
    (hz : z.start = z.stop) (hinside : z.start ≤ bs.length)
    (hfront : ∀ e ∈ front, e.text = []) (hrest : ∀ e ∈ rest, e.text = []) {n : Edit}
    (hn : n ∈ rest) (hstart : n.span.start = z.start) (hbytes : n.span.start < n.span.stop)
    (a b : UInt8) :
    applyEdits bs (fromTheEnd (front ++ ⟨z, [a]⟩ :: rest)) =
      applyEdits bs (fromTheEnd (front ++ ⟨z, [b]⟩ :: rest)) := by
  let here (es : List Edit) : List Edit := es.filter fun e => e.span.start = z.start
  let behind := applyEdits bs
    (fromTheEnd ((front ++ rest).filter fun e => z.start < e.span.start))
  -- Only the replacements that begin at the offset have to do with the byte.
  have hsplit (c : UInt8) : applyEdits bs (fromTheEnd (front ++ ⟨z, [c]⟩ :: rest)) =
      applyEdits (applyEdits behind (here front ++ ⟨z, [c]⟩ :: here rest))
        (fromTheEnd ((front ++ rest).filter fun e => e.span.start < z.start)) := by
    rw [fromTheEnd_split _ z.start, applyEdits_append, applyEdits_append]
    simp [behind, here]
  have hlength : z.start ≤ behind.length := by
    refine le_length_applyEdits hinside fun e he => ?_
    have hafter := (List.mem_filter.mp (List.mem_mergeSort.mp he)).2
    exact Nat.le_of_lt (of_decide_eq_true hafter)
  have hbefore : z.start = (behind.take z.start).length := by
    rw [List.length_take]
    omega
  have hremovals : ∀ {es : List Edit}, (∀ e ∈ es, e.text = []) →
      Removals (behind.take z.start).length (here es) := by
    intro es hes e he
    obtain ⟨hmem, hat⟩ := List.mem_filter.mp he
    exact ⟨(of_decide_eq_true hat).trans hbefore, hes e hmem⟩
  have htaken : 0 < coveredBytes (here rest) := by
    rw [coveredBytes, List.sum_pos_iff_exists_pos_nat]
    refine ⟨n.span.stop - n.span.start, List.mem_map.mpr ⟨n, ?_, rfl⟩, by omega⟩
    exact List.mem_filter.mpr ⟨hn, decide_eq_true hstart⟩
  have hstop : z.stop = (behind.take z.start).length := hz.symm.trans hbefore
  have hlost (c : UInt8) := applyEdits_insertion (hremovals hfront) (hremovals hrest) hbefore hstop
    htaken (behind.drop z.start) c
  simp only [List.take_append_drop] at hlost
  rw [hsplit, hsplit, hlost, hlost]

/-! ## Bytes of the ordered splice -/

/-- The replacement that only takes the bytes of a span away. -/
def Edit.removal (e : Edit) : Edit :=
  ⟨e.span, []⟩

/-- The ordered splice has the bytes that are kept and the bytes of the texts. -/
theorem count_patchFrom (c : UInt8) (bs : Bytes) (pos : Nat) (es : List Edit) :
    (bs.patchFrom pos es).count c =
      (bs.patchFrom pos (es.map Edit.removal)).count c +
        (es.map fun e => e.text.count c).sum := by
  induction es generalizing pos with
  | nil => simp [Bytes.patchFrom]
  | cons e es ih =>
    simp only [Bytes.patchFrom, List.map_cons, List.sum_cons, List.count_append, ih, Edit.removal,
      List.count_nil]
    omega

/-- Which replacement is read when depends on the spans only. -/
theorem map_removal_readingOrder (es : List Edit) :
    (readingOrder es).map Edit.removal = readingOrder (es.map Edit.removal) := by
  unfold readingOrder
  rw [← List.map_reverse]
  exact List.map_mergeSort fun _ _ _ _ => rfl

theorem count_patch_readingOrder (c : UInt8) (bs : Bytes) (es : List Edit) :
    (bs.patch (readingOrder es)).count c =
      (bs.patch (readingOrder (es.map Edit.removal))).count c +
        (es.map fun e => e.text.count c).sum := by
  rw [Bytes.patch, count_patchFrom, map_removal_readingOrder,
    ((readingOrder_perm es).map fun e => e.text.count c).sum_eq]
  rfl

/-- In the ordered splice an inserted byte is there. -/
theorem patch_readingOrder_ne {bs : Bytes} {front rest : List Edit} {z : Span} {a b : UInt8}
    (hab : a ≠ b) :
    bs.patch (readingOrder (front ++ ⟨z, [a]⟩ :: rest)) ≠
      bs.patch (readingOrder (front ++ ⟨z, [b]⟩ :: rest)) := by
  intro hsame
  have hcount := congrArg (List.count a) hsame
  have hkept (c : UInt8) : (front ++ ⟨z, [c]⟩ :: rest).map Edit.removal =
      front.map Edit.removal ++ ⟨z, []⟩ :: rest.map Edit.removal := by
    simp [Edit.removal]
  rw [count_patch_readingOrder, count_patch_readingOrder a bs (front ++ ⟨z, [b]⟩ :: rest), hkept,
    hkept, Nat.add_left_cancel_iff] at hcount
  simp [hab.symm] at hcount

/-! ## When replacements are made in order -/

/-- If an insertion comes before a replacement of the bytes that follow it, then with some texts the
    replacements do not come to the ordered splice. -/
theorem exists_applyEdits_ne {bs : Bytes} {front rest : List Edit} {z n : Edit}
    (hz : z.span.start = z.span.stop) (hinside : z.span.start ≤ bs.length) (hn : n ∈ rest)
    (hbytes : n.span.start < n.span.stop) (hstart : z.span.start = n.span.start) :
    ∃ es : List Edit, es.map Edit.span = (front ++ z :: rest).map Edit.span ∧
      (∀ e ∈ es, Utf8.IsText e.text) ∧
      applyEdits bs (fromTheEnd es) ≠ bs.patch (readingOrder es) := by
  -- All texts are empty but that of the insertion, which is one of two letters.
  let texts (c : UInt8) : List Edit :=
    front.map Edit.removal ++ ⟨z.span, [c]⟩ :: rest.map Edit.removal
  have hspans (c : UInt8) : (texts c).map Edit.span = (front ++ z :: rest).map Edit.span := by
    simp [texts, Edit.removal, Function.comp_def]
  have hremoval : ∀ {es : List Edit}, ∀ e ∈ es.map Edit.removal, e.text = [] := by
    intro es e he
    obtain ⟨e', _, rfl⟩ := List.mem_map.mp he
    rfl
  have htext {c : UInt8} (hc : Utf8.IsText [c]) : ∀ e ∈ texts c, Utf8.IsText e.text := by
    intro e he
    rcases List.mem_append.mp he with he | he
    · rw [hremoval e he]
      exact Utf8.isText_ofString ""
    · rcases List.mem_cons.mp he with rfl | he
      · exact hc
      · rw [hremoval e he]
        exact Utf8.isText_ofString ""
  have hlost : applyEdits bs (fromTheEnd (texts (byte 'a'))) =
      applyEdits bs (fromTheEnd (texts (byte 'b'))) :=
    edited_ignores_inserted_byte hz hinside hremoval hremoval
      (List.mem_map.mpr ⟨n, hn, rfl⟩) hstart.symm hbytes _ _
  by_contra hall
  push Not at hall
  have ha := hall (texts (byte 'a')) (hspans _) (htext (Utf8.isText_ofString "a"))
  have hb := hall (texts (byte 'b')) (hspans _) (htext (Utf8.isText_ofString "b"))
  exact patch_readingOrder_ne (by decide) (ha.symm.trans (hlost.trans hb))

/-- Replacements that do not overlap come to the ordered splice whatever their texts are, exactly if
    no insertion stands before a replacement of the bytes that follow it. -/
theorem applyEdits_in_order_iff {bs : Bytes} {recorded : List Edit}
    (hinside : ∀ e ∈ recorded, e.span.start ≤ e.span.stop ∧ e.span.stop ≤ bs.length)
    (hapart : recorded.Pairwise fun a b => a.span.overlaps b.span = false) :
    (∀ es : List Edit, es.map Edit.span = recorded.map Edit.span →
        (∀ e ∈ es, Utf8.IsText e.text) →
        applyEdits bs (fromTheEnd es) = bs.patch (readingOrder es)) ↔
      recorded.Pairwise fun a b => ¬ (a.span.start = a.span.stop ∧ b.span.start < b.span.stop ∧
        a.span.start = b.span.start) := by
  constructor
  · intro hall
    rw [List.pairwise_iff_forall_sublist]
    rintro z n hsub ⟨hz, hbytes, hstart⟩
    -- Take apart where the insertion `z` stands and what follows it, among which is `n`.
    obtain ⟨first, second, rfl, hmem, hn⟩ := List.cons_sublist_iff.mp hsub
    obtain ⟨front, between, rfl⟩ := List.append_of_mem hmem
    have hn' : n ∈ between ++ second :=
      List.mem_append_right _ (List.singleton_sublist.mp hn)
    have hz' := hinside z (by simp)
    obtain ⟨es, hspans, htexts, hne⟩ := @exists_applyEdits_ne bs front (between ++ second) z n hz
      (by omega) hn' hbytes hstart
    exact hne (hall es (by simpa using hspans) htexts)
  · intro hlast es hspans _
    -- All that is known of the recorded replacements is about their spans.
    have htransfer (R : Span → Span → Prop) (h : recorded.Pairwise fun a b => R a.span b.span) :
        es.Pairwise fun a b => R a.span b.span := by
      rw [← List.pairwise_map (f := Edit.span)] at h ⊢
      rwa [hspans]
    refine applyEdits_fromTheEnd ?_ (htransfer (fun a b => a.overlaps b = false) hapart)
      (htransfer (fun a b => ¬ (a.start = a.stop ∧ b.start < b.stop ∧ a.start = b.start)) hlast)
    intro e he
    have hspan : e.span ∈ recorded.map Edit.span := hspans ▸ List.mem_map_of_mem he
    obtain ⟨e', he', heq⟩ := List.mem_map.mp hspan
    rw [← heq]
    exact hinside e' he'

namespace Document

theorem requestAll_concat (d : Document) (calls : List (Node × String)) (call : Node × String) :
    d.requestAll (calls ++ [call]) = (d.requestAll calls).request call := by
  simp [requestAll]

theorem replace_eq_error_iff {d : Document} {n : Node} {text : String} :
    (∃ f, d.replace n text = .error f) ↔
      ∃ e ∈ d.edits, n.span.start < e.span.stop ∧ e.span.start < n.span.stop := by
  rcases d.replace_cases n text with ⟨e, he, hoverlaps, h⟩ | ⟨hfree, h⟩
  · simp only [Span.overlaps, decide_eq_true_eq] at hoverlaps
    exact ⟨fun _ => ⟨e, he, hoverlaps⟩, fun _ => ⟨_, h⟩⟩
  · constructor
    · rintro ⟨f, hf⟩
      rw [h] at hf
      cases hf
    · rintro ⟨e, he, hoverlaps⟩
      have hno := hfree e he
      simp only [Span.overlaps, decide_eq_false_iff_not] at hno
      exact absurd hoverlaps hno

/-- **Replacements are made in reading order, unless an insertion came too early.** Let replacements
    of nodes be asked for, in any order. A further one is refused exactly if its span overlaps one
    that was recorded, and then nothing changes; so what is recorded never overlaps. Whatever the
    texts are, making the recorded replacements gives the ordered splice of the source, exactly if
    no insertion was recorded before a replacement of the bytes that follow it. -/
theorem edited_in_order_iff (d : Document) (calls : List (Node × String))
    (hfresh : d.edits = [])
    (hinside : ∀ call ∈ calls,
      call.1.span.start ≤ call.1.span.stop ∧ call.1.span.stop ≤ d.source.length) :
    let recorded := (d.requestAll calls).edits
    (∀ n text, (∃ f, (d.requestAll calls).replace n text = .error f) ↔
      ∃ e ∈ recorded, n.span.start < e.span.stop ∧ e.span.start < n.span.stop) ∧
    (∀ n text f, (d.requestAll calls).replace n text = .error f →
      (∃ e ∈ recorded, f = .overlap n.span e.span) ∧
      (d.requestAll (calls ++ [(n, text)])).edits = recorded) ∧
    (∀ n text d', (d.requestAll calls).replace n text = .ok d' →
      d.requestAll (calls ++ [(n, text)]) = d' ∧
      d'.edits = recorded ++ [⟨n.span, Utf8.ofString text⟩]) ∧
    (recorded.Pairwise fun a b => ¬ (a.span.start < b.span.stop ∧ b.span.start < a.span.stop)) ∧
    ((∀ es : List Edit, es.map Edit.span = recorded.map Edit.span →
        (∀ e ∈ es, Utf8.IsText e.text) →
        { d with edits := es }.edited = d.source.patch (readingOrder es)) ↔
      recorded.Pairwise fun a b => ¬ (a.span.start = a.span.stop ∧ b.span.start < b.span.stop ∧
        a.span.start = b.span.start)) := by
  intro recorded
  have horderly : (d.requestAll calls).Orderly := by
    refine Orderly.requestAll ⟨?_, ?_⟩ hinside
    · rw [hfresh]
      exact fun _ he => nomatch he
    · rw [hfresh]
      exact List.Pairwise.nil
  refine ⟨fun n text => replace_eq_error_iff, ?_, ?_, ?_, ?_⟩
  · intro n text f hf
    rcases (d.requestAll calls).replace_cases n text with ⟨e, he, _, h⟩ | ⟨_, h⟩
    · refine ⟨⟨e, he, ?_⟩, ?_⟩
      · rw [h] at hf
        exact (Except.error.inj hf).symm
      · simp only [requestAll_concat, request, hf, recorded]
    · rw [h] at hf
      cases hf
  · intro n text d' hd'
    rcases (d.requestAll calls).replace_cases n text with ⟨e, _, _, h⟩ | ⟨_, h⟩
    · rw [h] at hd'
      cases hd'
    · rw [h] at hd'
      cases hd'
      exact ⟨by simp only [requestAll_concat, request, h], rfl⟩
  · refine horderly.apart.imp fun {a b} hab => ?_
    simpa only [Span.overlaps, decide_eq_false_iff_not] using hab
  · have hinside' := horderly.inside
    rw [requestAll_source] at hinside'
    exact applyEdits_in_order_iff hinside' horderly.apart

end Document

namespace Sample

/-- A node for some bytes. -/
def piece (start stop : Nat) : Node :=
  ⟨"identifier", ⟨start, stop⟩, true, none, []⟩

/-- A document of six letters. -/
def letters : Document :=
  ⟨Utf8.ofString "abcdef", piece 0 6, "any", [], []⟩

/-- Two letters are replaced, then something is inserted before them, and then a replacement is
    refused. -/
def insertedLate : List (Node × String) :=
  [(piece 2 4, "X"), (piece 2 2, "Y"), (piece 3 5, "Z")]

/-- Something is inserted, and then the two letters behind it are replaced. -/
def insertedEarly : List (Node × String) :=
  [(piece 2 2, "Y"), (piece 2 4, "X")]

end Sample

/-- The same two replacements are made in order if the insertion is asked for last, and with some
    texts they are not if it is asked for first. -/
theorem Document.edited_in_order_iff_letters :
    let late := (Sample.letters.requestAll Sample.insertedLate).edits
    let early := (Sample.letters.requestAll Sample.insertedEarly).edits
    late.map Edit.span = [⟨2, 4⟩, ⟨2, 2⟩] ∧ early.map Edit.span = [⟨2, 2⟩, ⟨2, 4⟩] ∧
    (∀ es : List Edit, es.map Edit.span = late.map Edit.span →
      (∀ e ∈ es, Utf8.IsText e.text) →
      { Sample.letters with edits := es }.edited = Sample.letters.source.patch (readingOrder es)) ∧
    ¬ ∀ es : List Edit, es.map Edit.span = early.map Edit.span →
      (∀ e ∈ es, Utf8.IsText e.text) →
      { Sample.letters with edits := es }.edited =
        Sample.letters.source.patch (readingOrder es) := by
  intro late early
  obtain ⟨_, _, _, _, hlate⟩ := edited_in_order_iff Sample.letters Sample.insertedLate rfl
    (by decide)
  obtain ⟨_, _, _, _, hearly⟩ := edited_in_order_iff Sample.letters Sample.insertedEarly rfl
    (by decide)
  refine ⟨by decide, by decide, hlate.mpr (by decide), fun hall => ?_⟩
  have hnot : ¬ (Sample.letters.requestAll Sample.insertedEarly).edits.Pairwise fun a b =>
      ¬ (a.span.start = a.span.stop ∧ b.span.start < b.span.stop ∧
        a.span.start = b.span.start) := by decide
  exact hnot (hearly.mp hall)

end ArityFill
