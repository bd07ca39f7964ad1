import ArityFill.Report.Arity
import Mathlib.Data.List.Basic
import Mathlib.Data.List.TakeWhile
import Mathlib.Data.Nat.Digits.Defs

/-! # Which number a description asks for

    A description is searched for words that a number follows. The words may stand in it more than
    once, and not every time before a digit; digits may be of any script and any number. Here the
    search is compared with what it looks for:

    - `AsksAt` says that the words stand at a place of a text, with a digit behind them,
    - `FirstAsks` is the leftmost such place, with the whole run of digits behind it.

    `arityOf_reads_leftmost` says that the number is read off that place and nowhere else. The words
    cannot overlap themselves, because their first letter does not come back. So nothing that stands
    before them can take part in a match (`firstAsks_of_quiet`), and a number that was written is
    read back.
-/

namespace ArityFill.Text

/-! ## Digits -/

/-- Whether a text begins with a decimal digit of some script. -/
def beginsWithDigit (cs : List Char) : Bool :=
  cs.head?.any isDigit

theorem takeWhile_isDigit_ne_nil {cs : List Char} (h : beginsWithDigit cs = true) :
    cs.takeWhile isDigit ≠ [] := by
  cases cs with
  | nil => cases h
  | cons c cs =>
    have hdigit : isDigit c = true := h
    rw [List.takeWhile_cons_of_pos hdigit]
    exact List.cons_ne_nil _ _

theorem takeWhile_isDigit_eq_nil {cs : List Char} (h : beginsWithDigit cs = false) :
    cs.takeWhile isDigit = [] := by
  cases cs with
  | nil => rfl
  | cons c cs =>
    have hdigit : isDigit c = false := h
    rw [List.takeWhile_cons_of_neg (by rw [hdigit]; exact Bool.false_ne_true)]

/-- A run of digits ends where no digit follows. -/
theorem takeWhile_isDigit_append {digits after : List Char}
    (hdigits : ∀ c ∈ digits, isDigit c = true) (hafter : beginsWithDigit after = false) :
    (digits ++ after).takeWhile isDigit = digits := by
  rw [List.takeWhile_append_of_pos hdigits, takeWhile_isDigit_eq_nil hafter, List.append_nil]

theorem beginsWithDigit_append {digits : List Char} (hne : digits ≠ [])
    (hdigits : ∀ c ∈ digits, isDigit c = true) (after : List Char) :
    beginsWithDigit (digits ++ after) = true := by
  cases digits with
  | nil => exact absurd rfl hne
  | cons c digits => exact hdigits c List.mem_cons_self

theorem beginsWithDigit_dropWhile (cs : List Char) :
    beginsWithDigit (cs.dropWhile isDigit) = false := by
  rw [beginsWithDigit, ← List.find?_not_eq_head?_dropWhile]
  cases hfind : cs.find? fun c => !isDigit c with
  | none => rfl
  | some c => simpa using List.find?_some hfind

/-- The value of a digit. -/
def digitValue (c : Char) : Nat :=
  (digit? c).getD 0

/-- The number that some digits write is the sum of their values, each by its place. -/
theorem digitsValue_eq_ofDigits (cs : List Char) :
    digitsValue cs = Nat.ofDigits 10 (cs.map digitValue).reverse := by
  have hfrom (n : Nat) : cs.foldl (fun n c => n * 10 + (digit? c).getD 0) n =
      Nat.ofDigits 10 ((cs.map digitValue).reverse ++ [n]) := by
    induction cs generalizing n with
    | nil => simp [Nat.ofDigits_singleton]
    | cons c cs ih =>
      rw [List.foldl_cons, ih, List.map_cons, List.reverse_cons, List.append_assoc,
        Nat.ofDigits_append, Nat.ofDigits_append]
      congr 2
      simp only [List.singleton_append, Nat.ofDigits_cons, Nat.ofDigits_nil, digitValue]
      ring
  rw [digitsValue, hfrom, Nat.ofDigits_append]
  simp

/-- The ASCII digits are decimal digits. -/
theorem digit?_of_isDigit {c : Char} (h : c.isDigit = true) :
    digit? c = some (c.toNat - '0'.toNat) := by
  obtain ⟨hlow, hhigh⟩ := Char.isDigit_iff_toNat.mp h
  have hrange : '0'.toNat ≤ c.toNat ∧ c.toNat < '0'.toNat + 10 := by
    refine ⟨hlow, Nat.lt_of_le_of_lt hhigh (by decide)⟩
  -- Their zero is the first of all zeros.
  have hfirst : zeroDigits = '0'.toNat :: zeroDigits.tail := rfl
  rw [digit?, hfirst, List.find?_cons, decide_eq_true hrange]
  rfl

/-- The digits of a written number. -/
theorem isDigit_of_mem_toString {n : Nat} {c : Char} (h : c ∈ (toString n).toList) :
    c.isDigit = true := by
  rw [Nat.toString_eq_repr, Nat.toList_repr] at h
  exact Nat.isDigit_of_mem_toDigits (by decide) (by decide) h

/-- A number that was written is read back. -/
theorem digitsValue_toString (n : Nat) : digitsValue (toString n).toList = n := by
  have hread : digitsValue (toString n).toList = Nat.ofDigitChars 10 (toString n).toList 0 := by
    rw [digitsValue, Nat.ofDigitChars_eq_foldl]
    apply List.foldl_ext
    intro m c hc
    rw [digit?_of_isDigit (isDigit_of_mem_toString hc), Option.getD_some, Nat.mul_comm]
  rw [hread, Nat.toString_eq_repr, Nat.toList_repr, Nat.ofDigitChars_ten_toDigits]

theorem length_toString_le_iff {n k : Nat} (hk : 0 < k) :
    (toString n).toList.length ≤ k ↔ n < 10 ^ k := by
  rw [Nat.toString_eq_repr, Nat.toList_repr]
  exact Nat.length_toDigits_le_iff (by decide) hk

end ArityFill.Text

namespace ArityFill.Report

open Text (isDigit beginsWithDigit digitsValue digitValue)

/-! ## The search -/

/-- The words stand in a text, behind `before`, with a digit at the beginning of what follows. -/
def AsksAt (cs before rest : List Char) : Prop :=
  cs = before ++ arityLead ++ rest ∧ beginsWithDigit rest = true

/-- The leftmost place where the words are followed by a digit, and the whole run of digits. -/
structure FirstAsks (cs before digits after : List Char) : Prop where
  /-- The words stand behind `before`, and then the digits. -/
  text : cs = before ++ arityLead ++ digits ++ after
  /-- There is a digit. -/
  nonempty : digits ≠ []
  /-- There are digits only. -/
  digits : ∀ c ∈ digits, isDigit c = true
  /-- No further digit follows. -/
  whole : beginsWithDigit after = false
  /-- No digit follows the words further left. -/
  leftmost : ∀ before' rest, AsksAt cs before' rest → before.length ≤ before'.length

theorem AsksAt.cons {cs before rest : List Char} (h : AsksAt cs before rest) (c : Char) :
    AsksAt (c :: cs) (c :: before) rest := by
  obtain ⟨rfl, hdigit⟩ := h
  exact ⟨rfl, hdigit⟩

/-- At the words the search ends, if a digit follows them. -/
theorem arityDigits_here {rest : List Char} (h : beginsWithDigit rest = true) :
    arityDigits (arityLead ++ rest) = some (rest.takeWhile isDigit) := by
  have hafter : Text.after? arityLead (arityLead ++ rest) = some rest := by
    rw [Text.after?, if_pos (List.isPrefixOf_iff_prefix.mpr (List.prefix_append _ _)),
      List.drop_left]
  have hcons : arityLead ++ rest = 'A' :: (arityLead.tail ++ rest) := by
    rw [← List.cons_append]
    rfl
  rw [hcons] at hafter ⊢
  rw [arityDigits, hafter]
  simp [Text.takeWhile_isDigit_ne_nil h]

/-- Anywhere else it goes on with the next character. -/
theorem arityDigits_next {c : Char} {cs : List Char} (h : ∀ rest, ¬ AsksAt (c :: cs) [] rest) :
    arityDigits (c :: cs) = arityDigits cs := by
  rw [arityDigits]
  cases hafter : Text.after? arityLead (c :: cs) with
  | none => rfl
  | some rest =>
    -- The words stand here, so no digit follows them.
    have htext : c :: cs = [] ++ arityLead ++ rest := by
      unfold Text.after? at hafter
      split at hafter
      · next hlead =>
        obtain ⟨rest', hrest'⟩ := List.isPrefixOf_iff_prefix.mp hlead
        rw [← hrest', List.drop_left] at hafter
        cases hafter
        exact hrest'.symm
      · cases hafter
    have hdigit : beginsWithDigit rest = false := by
      rw [← Bool.not_eq_true]
      intro hdigit
      exact h rest ⟨htext, hdigit⟩
    simp [Text.takeWhile_isDigit_eq_nil hdigit]

/-- The search finds the leftmost place. -/
theorem arityDigits_of_firstAsks {cs before digits after : List Char}
    (h : FirstAsks cs before digits after) : arityDigits cs = some digits := by
  induction before generalizing cs with
  | nil =>
    rw [h.text, List.nil_append, List.append_assoc,
      arityDigits_here (Text.beginsWithDigit_append h.nonempty h.digits after),
      Text.takeWhile_isDigit_append h.digits h.whole]
  | cons c before ih =>
    have htext : cs = c :: (before ++ arityLead ++ digits ++ after) := h.text
    rw [htext, arityDigits_next]
    · refine ih ⟨rfl, h.nonempty, h.digits, h.whole, ?_⟩
      intro before' rest hasks
      have hcons := hasks.cons c
      rw [← htext] at hcons
      exact Nat.le_of_succ_le_succ (h.leftmost _ _ hcons)
    · -- A place further left is out of the question.
      intro rest hasks
      rw [← htext] at hasks
      exact absurd (h.leftmost _ _ hasks) (Nat.not_succ_le_zero _)

/-- Without any place the search finds nothing. -/
theorem arityDigits_of_quiet {cs : List Char} (h : ∀ before rest, ¬ AsksAt cs before rest) :
    arityDigits cs = none := by
  induction cs with
  | nil => rfl
  | cons c cs ih =>
    rw [arityDigits_next fun rest => h [] rest]
    apply ih
    intro before rest hasks
    exact h _ _ (hasks.cons c)

/-- If there is any place, there is a leftmost one. -/
theorem AsksAt.exists_firstAsks {cs before rest : List Char} (h : AsksAt cs before rest) :
    ∃ before digits after, FirstAsks cs before digits after := by
  induction hn : before.length using Nat.strong_induction_on generalizing before rest with
  | _ n ih =>
    by_cases hless : ∃ before' rest', AsksAt cs before' rest' ∧ before'.length < before.length
    · obtain ⟨before', rest', hasks, hlt⟩ := hless
      exact ih _ (hn ▸ hlt) hasks rfl
    · refine ⟨before, rest.takeWhile isDigit, rest.dropWhile isDigit, ?_,
        Text.takeWhile_isDigit_ne_nil h.2, fun _ hc => List.mem_takeWhile_imp hc,
        Text.beginsWithDigit_dropWhile rest, ?_⟩
      · rw [List.append_assoc, List.takeWhile_append_dropWhile]
        exact h.1
      · intro before' rest' hasks
        rw [← Nat.not_lt]
        intro hlt
        exact hless ⟨before', rest', hasks, hlt⟩

theorem arityDigits_eq_none_iff {cs : List Char} :
    arityDigits cs = none ↔ ∀ before rest, ¬ AsksAt cs before rest := by
  constructor
  · intro hnone before rest hasks
    obtain ⟨before', digits, after, hfirst⟩ := hasks.exists_firstAsks
    rw [arityDigits_of_firstAsks hfirst] at hnone
    cases hnone
  · exact arityDigits_of_quiet

/-! ## The words do not overlap -/

/-- Words that begin further left have ended where the next ones begin: the first letter would have
    to come back among the other letters. -/
theorem arityLead_not_overlapping {mid rest rest' : List Char} (hne : mid ≠ [])
    (h : arityLead ++ rest = mid ++ (arityLead ++ rest')) :
    ∃ gap, mid = arityLead ++ gap ∧ rest = gap ++ (arityLead ++ rest') := by
  have hfirst : arityLead = 'A' :: arityLead.tail := rfl
  have hfresh : 'A' ∉ arityLead.tail := by decide
  rcases List.append_eq_append_iff.mp h with hgap | ⟨part, hlead, hpart⟩
  · exact hgap
  · cases part with
    | nil =>
      refine ⟨[], ?_, ?_⟩
      · rw [hlead, List.append_nil, List.append_nil]
      · exact hpart.symm
    | cons c part =>
      -- The next words begin inside of these, behind their first letter.
      rw [hfirst, List.cons_append, List.cons_append] at hpart
      obtain ⟨rfl, -⟩ := List.cons.inj hpart
      cases mid with
      | nil => exact absurd rfl hne
      | cons m mid =>
        have hmem : 'A' ∈ arityLead.tail := by
          rw [hlead]
          exact List.mem_append_right _ List.mem_cons_self
        exact absurd hmem hfresh

theorem beginsWithDigit_arityLead (rest : List Char) :
    beginsWithDigit (arityLead ++ rest) = false := by
  have hletter : isDigit 'A' = false := by decide
  exact hletter

/-- If the words are nowhere followed by a digit in a text, then words that are put behind it, with
    digits, make the leftmost place. -/
theorem firstAsks_of_quiet {before digits after : List Char}
    (hquiet : ∀ b rest, ¬ AsksAt before b rest) (hne : digits ≠ [])
    (hdigits : ∀ c ∈ digits, isDigit c = true) (hafter : beginsWithDigit after = false) :
    FirstAsks (before ++ arityLead ++ digits ++ after) before digits after := by
  refine ⟨rfl, hne, hdigits, hafter, ?_⟩
  rintro b rest ⟨htext, hdigit⟩
  rw [← Nat.not_lt]
  intro hlt
  rw [List.append_assoc, List.append_assoc, List.append_assoc] at htext
  rcases List.append_eq_append_iff.mp htext with ⟨mid, rfl, -⟩ | ⟨mid, rfl, hmid⟩
  · simp at hlt
  · -- The place begins inside of `before`, so its words end there.
    have hmidne : mid ≠ [] := by
      rintro rfl
      simp at hlt
    obtain ⟨gap, rfl, rfl⟩ := arityLead_not_overlapping hmidne hmid
    cases gap with
    | nil =>
      rw [List.nil_append, beginsWithDigit_arityLead] at hdigit
      cases hdigit
    | cons c gap =>
      refine hquiet b (c :: gap) ⟨?_, hdigit⟩
      rw [List.append_assoc]

/-! ## The number -/

theorem arityOf_eq_none_iff {description : String} :
    arityOf description = .ok none ↔
      ∀ before rest, ¬ AsksAt description.toList before rest := by
  rw [← arityDigits_eq_none_iff, arityOf]
  cases arityDigits description.toList with
  | none => simp
  | some digits =>
    simp only [reduceCtorEq, iff_false]
    split <;> simp

theorem arityOf_of_firstAsks {description : String} {before digits after : List Char}
    (h : FirstAsks description.toList before digits after) :
    arityOf description =
      if digits.length ≤ 4300 then .ok (some (Nat.ofDigits 10 (digits.map digitValue).reverse))
      else .error (.tooManyDigits digits.length) := by
  rw [arityOf, arityDigits_of_firstAsks h, ← Text.digitsValue_eq_ofDigits]
  rfl

/-- A number that was written behind the words is read back. -/
theorem arityOf_written {n : Nat} {before after : String} (hn : n < 10 ^ 4300)
    (hbefore : arityOf before = .ok none) (hafter : beginsWithDigit after.toList = false) :
    arityOf (before ++ "Application of polymorphic type needs <list of " ++ toString n ++ after) =
      .ok (some n) := by
  have hdigits : ∀ c ∈ (toString n).toList, isDigit c = true := by
    intro c hc
    rw [isDigit, Text.digit?_of_isDigit (Text.isDigit_of_mem_toString hc)]
    rfl
  have hne : (toString n).toList ≠ [] := by
    rw [Nat.toString_eq_repr, Nat.toList_repr]
    exact Nat.toDigits_ne_nil
  have hfirst := firstAsks_of_quiet (arityOf_eq_none_iff.mp hbefore) hne hdigits hafter
  have htext : (before ++ "Application of polymorphic type needs <list of " ++ toString n ++
      after).toList = before.toList ++ arityLead ++ (toString n).toList ++ after.toList := by
    simp only [String.toList_append]
    rfl
  rw [← htext] at hfirst
  rw [arityOf_of_firstAsks hfirst, if_pos ((Text.length_toString_le_iff (by decide)).mpr hn),
    ← Text.digitsValue_eq_ofDigits, Text.digitsValue_toString]

/-- **Which number a description asks for.** A description asks for none exactly if the words are
    nowhere followed by a digit. Otherwise there is a leftmost place where they are, and the number
    is what the whole run of digits there writes in base ten, whatever their scripts; more than 4300
    digits are refused.

    So a number that was written behind the words is read back, if the text before them asks for
    none and no digit follows. -/
theorem arityOf_reads_leftmost :
    (∀ description : String,
      (arityOf description = .ok none ↔
        ∀ before rest, ¬ AsksAt description.toList before rest) ∧
      ((∃ before rest, AsksAt description.toList before rest) →
        ∃ before digits after, FirstAsks description.toList before digits after) ∧
      (∀ before digits after, FirstAsks description.toList before digits after →
        arityOf description =
          if digits.length ≤ 4300 then .ok (some (Nat.ofDigits 10 (digits.map digitValue).reverse))
          else .error (.tooManyDigits digits.length))) ∧
    ∀ (n : Nat) (before after : String), n < 10 ^ 4300 → arityOf before = .ok none →
      beginsWithDigit after.toList = false →
      arityOf (before ++ "Application of polymorphic type needs <list of " ++ toString n ++ after) =
        .ok (some n) := by
  refine ⟨?_, fun n before after => arityOf_written⟩
  intro description
  refine ⟨arityOf_eq_none_iff, ?_, fun before digits after => arityOf_of_firstAsks⟩
  rintro ⟨before, rest, hasks⟩
  exact hasks.exists_firstAsks

/-- The words stand twice, the first time before another word. The digits are of two scripts. -/
theorem arityOf_reads_leftmost_false_start :
    let words := "Application of polymorphic type needs <list of "
    arityOf words = .ok none ∧
    FirstAsks (words ++ words ++ "٣7 arguments").toList words.toList ['٣', '7']
      " arguments".toList ∧
    arityOf (words ++ words ++ "٣7 arguments") = .ok (some 37) ∧
    arityOf (words ++ words ++ toString 120 ++ " arguments") = .ok (some 120) := by
  intro words
  obtain ⟨hall, hwritten⟩ := arityOf_reads_leftmost
  have hnone : arityOf words = .ok none := by decide +kernel
  have hfirst : FirstAsks (words ++ words ++ "٣7 arguments").toList words.toList ['٣', '7']
      " arguments".toList := by
    have hquiet := (hall words).1.mp hnone
    have hdigits : ∀ d ∈ ['٣', '7'], Text.isDigit d = true :=
      List.forall_mem_cons.mpr ⟨by decide +kernel, List.forall_mem_singleton.mpr (by decide)⟩
    have hplace := @firstAsks_of_quiet words.toList ['٣', '7'] " arguments".toList hquiet
      (by decide) hdigits (by decide +kernel)
    have htail : "٣7 arguments".toList = ['٣', '7'] ++ " arguments".toList := by decide +kernel
    rw [String.toList_append, String.toList_append, htail, ← List.append_assoc]
    exact hplace
  refine ⟨hnone, hfirst, ?_, ?_⟩
  · rw [(hall _).2.2 _ _ _ hfirst]
    decide +kernel
  · have hsmall : 120 < 10 ^ 4300 := (Text.length_toString_le_iff (by decide)).mp (by decide)
    exact hwritten 120 words " arguments" hsmall hnone (by decide +kernel)

end ArityFill.Report
