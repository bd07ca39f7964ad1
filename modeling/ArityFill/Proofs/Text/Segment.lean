import ArityFill.Text.Segment
import Mathlib.Data.List.Basic
import Mathlib.Data.List.TakeWhile

/-! # Finding and cutting text: what the searches find

    The searches in terms of the relations that lists have anyway: a part is found where it stands,
    the pieces are those that joining puts together again, and `LastRun` says what follows the last
    character of a class.
-/

namespace ArityFill.Text

theorem occurs_iff_infix {part cs : List Char} : occurs part cs = true ↔ part <:+: cs := by
  induction cs with
  | nil => simp [occurs]
  | cons c cs ih =>
    rw [occurs, Bool.or_eq_true, List.isPrefixOf_iff_prefix, ih, List.infix_cons_iff]

/-! ## Pieces -/

/-- A text without separators is one piece. -/
theorem pieces_of_notMem {sep : Char} {cs : List Char} (h : sep ∉ cs) : pieces sep cs = [cs] := by
  induction cs with
  | nil => rfl
  | cons c cs ih =>
    rw [List.mem_cons, not_or] at h
    simp only [pieces, Ne.symm h.1, ↓reduceIte, ih h.2]

/-- Cutting into pieces is splitting a list at an element. -/
theorem pieces_eq_splitOn (sep : Char) (cs : List Char) : pieces sep cs = cs.splitOn sep := by
  induction cs with
  | nil => rfl
  | cons c cs ih =>
    rw [pieces, ih, List.splitOn_eq_splitOnP, List.splitOn_eq_splitOnP,
      List.splitOnP_cons_eq_if_modifyHead]
    by_cases hc : c = sep
    · rw [if_pos hc, if_pos (beq_iff_eq.mpr hc)]
    · rw [if_neg hc, if_neg fun h => hc (beq_iff_eq.mp h)]
      -- There is always a first piece, to which the character is added.
      obtain ⟨p, ps, hsplit⟩ := List.exists_cons_of_ne_nil
        (List.splitOnP_ne_nil (fun x => x == sep) cs)
      rw [hsplit]
      rfl

/-- The pieces around a separator. -/
theorem pieces_append_cons (sep : Char) (cs ds : List Char) :
    pieces sep (cs ++ sep :: ds) = pieces sep cs ++ pieces sep ds := by
  rw [pieces_eq_splitOn, pieces_eq_splitOn, pieces_eq_splitOn, List.splitOn_append_cons_self]

/-- A piece is made of characters of the text, and none of them is the separator. -/
theorem mem_of_mem_pieces {sep : Char} {cs p : List Char} (hp : p ∈ pieces sep cs) :
    ∀ c ∈ p, c ∈ cs ∧ c ≠ sep := by
  induction cs generalizing p with
  | nil =>
    rw [pieces, List.mem_singleton] at hp
    subst hp
    exact List.forall_mem_nil _
  | cons c cs ih =>
    have hrest (q : List Char) (hq : q ∈ pieces sep cs) : ∀ x ∈ q, x ∈ c :: cs ∧ x ≠ sep := by
      intro x hx
      exact ⟨List.mem_cons_of_mem _ (ih hq x hx).1, (ih hq x hx).2⟩
    by_cases hc : c = sep
    · rw [pieces, if_pos hc, List.mem_cons] at hp
      obtain rfl | hp := hp
      · exact List.forall_mem_nil _
      · exact hrest p hp
    · rw [pieces, if_neg hc] at hp
      split at hp
      · rw [List.mem_singleton] at hp
        subst hp
        exact List.forall_mem_singleton.mpr ⟨List.mem_cons_self, hc⟩
      · next q qs hpieces =>
        rw [hpieces] at hrest
        obtain rfl | hp := List.mem_cons.mp hp
        · exact List.forall_mem_cons.mpr ⟨⟨List.mem_cons_self, hc⟩, hrest q List.mem_cons_self⟩
        · exact hrest p (List.mem_cons_of_mem _ hp)

/-! ## What follows the last character of a class -/

/-- What stands in a text behind its last character of a class: nothing in it is of the class, and
    what stands before it is nothing or ends in the class. -/
def LastRun (p : Char → Bool) (cs run : List Char) : Prop :=
  ∃ before, cs = before ++ run ∧ (∀ c ∈ before.getLast?, p c = true) ∧ ∀ c ∈ run, p c = false

/-- A run is as long as possible if what follows it begins with something else. -/
theorem takeWhile_append_of_head {p : Char → Bool} {run rest : List Char}
    (hrun : ∀ c ∈ run, p c = true) (hrest : ∀ c ∈ rest.head?, p c = false) :
    (run ++ rest).takeWhile p = run := by
  have hstop : rest.takeWhile p = [] := by
    cases rest with
    | nil => rfl
    | cons c rest => rw [List.takeWhile_cons_of_neg (by simp [hrest c rfl])]
  rw [List.takeWhile_append_of_pos hrun, hstop, List.append_nil]

theorem lastRun_afterLast (p : Char → Bool) (cs : List Char) : LastRun p cs (afterLast p cs) := by
  refine ⟨(cs.reverse.dropWhile fun c => !p c).reverse, ?_, ?_, ?_⟩
  · rw [afterLast, ← List.reverse_append, List.takeWhile_append_dropWhile, List.reverse_reverse]
  · intro c hc
    have hhead := List.head?_dropWhile_not (fun c => !p c) cs.reverse
    rw [List.getLast?_reverse, Option.mem_def] at hc
    rw [hc] at hhead
    simpa using hhead
  · intro c hc
    rw [afterLast, List.mem_reverse] at hc
    simpa using List.mem_takeWhile_imp hc

/-- There is only one such run. -/
theorem LastRun.afterLast_eq {p : Char → Bool} {cs run : List Char} (h : LastRun p cs run) :
    afterLast p cs = run := by
  obtain ⟨before, rfl, hbefore, hrun⟩ := h
  have hpass : ∀ c ∈ run.reverse, (!p c) = true := by
    intro c hc
    rw [hrun c (List.mem_reverse.mp hc)]
    rfl
  have hstop : ∀ c ∈ before.reverse.head?, (!p c) = false := by
    intro c hc
    rw [List.head?_reverse] at hc
    rw [hbefore c hc]
    rfl
  rw [afterLast, List.reverse_append, takeWhile_append_of_head hpass hstop, List.reverse_reverse]

theorem afterLast_eq_iff {p : Char → Bool} {cs run : List Char} :
    afterLast p cs = run ↔ LastRun p cs run := by
  constructor
  · intro h
    rw [← h]
    exact lastRun_afterLast p cs
  · exact LastRun.afterLast_eq

instance (p : Char → Bool) (cs run : List Char) : Decidable (LastRun p cs run) :=
  decidable_of_iff (afterLast p cs = run) afterLast_eq_iff

/-- A text that holds nothing of the class is the run itself. -/
theorem lastRun_self {p : Char → Bool} {cs : List Char} (h : ∀ c ∈ cs, p c = false) :
    LastRun p cs cs :=
  ⟨[], rfl, by simp, h⟩

/-- The last piece is what follows the last separator. -/
theorem LastRun.pieces_eq {sep : Char} {cs run : List Char}
    (h : LastRun (fun c => c = sep) cs run) : ∃ ps, pieces sep cs = ps ++ [run] := by
  obtain ⟨before, rfl, hbefore, hrun⟩ := h
  have hpiece : pieces sep run = [run] := by
    apply pieces_of_notMem
    intro hsep
    simpa using hrun sep hsep
  cases hlast : before.getLast? with
  | none =>
    rw [List.getLast?_eq_none_iff.mp hlast]
    exact ⟨[], hpiece⟩
  | some c =>
    obtain ⟨cs, rfl⟩ := List.getLast?_eq_some_iff.mp hlast
    have hc : c = sep := by simpa using hbefore c hlast
    refine ⟨pieces sep cs, ?_⟩
    rw [hc, List.append_assoc, List.singleton_append, pieces_append_cons, hpiece]

end ArityFill.Text
