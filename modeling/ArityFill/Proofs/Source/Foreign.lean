import ArityFill.Source.Mask

/-! # Which punctuation is masked

    The mask reads a text once from left to right, and it takes a bar and its brace together. So one
    pair could hide another one that shares its bar, as in an empty exact object. `Foreign` says
    what is masked without any order of reading: each item is judged by its neighbourhood in the
    source.

    The rule speaks of ASCII punctuation only, so it makes sense for bytes and for characters alike.
    It is stated for any alphabet; `sym` says how a character of ASCII is written in it.

    - `maskFrom_eq_blankFrom`: reading pairs comes to the same as judging each byte by itself,
    - `getElem?_blankFrom`: judging each item by itself is the rule.
-/

namespace ArityFill.Source

/-! ## The rule -/

section
variable {α : Type} (sym : Char → α)

/-- The characters after which a question mark can only begin a maybe type. -/
def contextMarks : List Char :=
  [':', '<', ',', '(', '=', '|', '&', '[', '\x7b']

/-- Whether an item is a blank: a space, a tab, or part of a line break. -/
def IsBlank (a : α) : Prop :=
  ∃ c ∈ [' ', '\t', '\r', '\n'], a = sym c

/-- Whether `j` is the last place before `i` where no blank stands. -/
structure LastSolid (s : List α) (i j : Nat) : Prop where
  /-- It is before the other place. -/
  lt : j < i
  /-- No blank stands there. -/
  solid : ∃ a, s[j]? = some a ∧ ¬ IsBlank sym a
  /-- There are only blanks in between. -/
  blank : ∀ k, j < k → k < i → ∃ a, s[k]? = some a ∧ IsBlank sym a

/-- Whether a question mark at `i` would begin a maybe type: over blanks it follows one of the
    context marks, or the arrow of a function type. -/
def FollowsContext (s : List α) (i : Nat) : Prop :=
  ∃ j, LastSolid sym s i j ∧
    ((∃ c ∈ contextMarks, s[j]? = some (sym c)) ∨
      s[j]? = some (sym '>') ∧ ∃ k, j = k + 1 ∧ s[k]? = some (sym '='))

/-- Whether a bar at `i` would belong to a brace: to an opening one before it, or to a closing one
    after it. -/
def TouchesBrace (s : List α) (i : Nat) : Prop :=
  (∃ k, i = k + 1 ∧ s[k]? = some (sym '\x7b')) ∨ s[i + 1]? = some (sym '\x7d')

/-- Whether at `i` stands punctuation that is foreign to the grammar: the mark of a maybe type, or
    the bar of an exact object type. -/
def Foreign (s : List α) (i : Nat) : Prop :=
  s[i]? = some (sym '?') ∧ FollowsContext sym s i ∨ s[i]? = some (sym '|') ∧ TouchesBrace sym s i

/-! ## Looking back over blanks -/

variable {sym} {s : List α} {i j : Nat} {a : α}

/-- A blank is passed over. -/
theorem lastSolid_succ_of_blank (ha : s[i]? = some a) (hblank : IsBlank sym a) :
    LastSolid sym s (i + 1) j ↔ LastSolid sym s i j := by
  constructor
  · rintro ⟨hlt, ⟨b, hb, hsolid⟩, hbetween⟩
    have hne : j ≠ i := by
      rintro rfl
      rw [ha, Option.some.injEq] at hb
      exact hsolid (hb ▸ hblank)
    exact ⟨by omega, ⟨b, hb, hsolid⟩, fun k hjk hki => hbetween k hjk (by omega)⟩
  · rintro ⟨hlt, hsolid, hbetween⟩
    refine ⟨by omega, hsolid, fun k hjk hki => ?_⟩
    by_cases hk : k = i
    · exact ⟨a, hk ▸ ha, hblank⟩
    · exact hbetween k hjk (by omega)

/-- Anything else is where the look back ends. -/
theorem lastSolid_succ_of_solid (ha : s[i]? = some a) (hsolid : ¬ IsBlank sym a) :
    LastSolid sym s (i + 1) j ↔ j = i := by
  constructor
  · rintro ⟨hlt, -, hbetween⟩
    rcases Nat.lt_or_eq_of_le (Nat.le_of_lt_succ hlt) with hji | rfl
    · -- Between the two places there would stand a blank at `i`.
      obtain ⟨b, hb, hblank⟩ := hbetween i hji (Nat.lt_succ_self i)
      rw [ha, Option.some.injEq] at hb
      exact absurd (hb ▸ hblank) hsolid
    · rfl
  · rintro rfl
    exact ⟨by omega, ⟨a, ha, hsolid⟩, fun k hjk hki => by omega⟩

theorem followsContext_succ_of_blank (ha : s[i]? = some a) (hblank : IsBlank sym a) :
    FollowsContext sym s (i + 1) ↔ FollowsContext sym s i := by
  simp only [FollowsContext, lastSolid_succ_of_blank ha hblank]

theorem followsContext_succ_of_solid (ha : s[i]? = some a) (hsolid : ¬ IsBlank sym a) :
    FollowsContext sym s (i + 1) ↔
      (∃ c ∈ contextMarks, a = sym c) ∨
        a = sym '>' ∧ ∃ k, i = k + 1 ∧ s[k]? = some (sym '=') := by
  simp only [FollowsContext, lastSolid_succ_of_solid ha hsolid, exists_eq_left, ha,
    Option.some.injEq]

/-- The item before a place, seen from behind. -/
theorem exists_pred_iff (before rest : List α) (b : α) :
    (∃ k, before.length = k + 1 ∧ (before.reverse ++ rest)[k]? = some b) ↔
      before.head? = some b := by
  cases before with
  | nil => simp
  | cons c before =>
    have hat : ((c :: before).reverse ++ rest)[before.length]? = some c := by simp
    simp only [List.length_cons, Nat.add_right_cancel_iff, exists_eq_left', hat, List.head?_cons]

end

/-! ## Judging each item by itself -/

section
variable {α : Type} [DecidableEq α] (sym : Char → α)

instance (a : α) : Decidable (IsBlank sym a) :=
  List.decidableBEx (fun c => a = sym c) _

/-- Whether a question mark would begin a maybe type, by the items before it, nearest first. -/
def isContext (before : List α) : Bool :=
  match before.dropWhile fun a => decide (IsBlank sym a) with
  | [] => false
  | a :: rest =>
    (contextMarks.any fun c => a = sym c) || a = sym '>' && rest.head? = some (sym '=')

/-- Whether an item is foreign punctuation, by the items before it, nearest first, and after it. -/
def isForeign (before : List α) (a : α) (after : List α) : Bool :=
  a = sym '?' && isContext sym before ||
    a = sym '|' && (before.head? = some (sym '\x7b') || after.head? = some (sym '\x7d'))

/-- Blanks foreign punctuation, each item being judged by itself. -/
def blankFrom (before : List α) : List α → List α
  | [] => []
  | a :: rest =>
    (if isForeign sym before a rest then sym ' ' else a) :: blankFrom (a :: before) rest

variable {sym}

theorem isContext_cons_of_blank {a : α} (h : IsBlank sym a) (before : List α) :
    isContext sym (a :: before) = isContext sym before := by
  simp only [isContext, List.dropWhile_cons, h, decide_true, if_true]

theorem isContext_cons_of_solid {a : α} (h : ¬ IsBlank sym a) (before : List α) :
    isContext sym (a :: before) =
      ((contextMarks.any fun c => a = sym c) ||
        a = sym '>' && before.head? = some (sym '=')) := by
  simp only [isContext, List.dropWhile_cons, h, decide_false, Bool.false_eq_true, if_false]

theorem isContext_iff (before rest : List α) :
    isContext sym before = true ↔ FollowsContext sym (before.reverse ++ rest) before.length := by
  induction before generalizing rest with
  | nil =>
    -- Nothing stands before the first place.
    simp only [isContext, List.dropWhile_nil, Bool.false_eq_true, List.length_nil, false_iff]
    rintro ⟨j, hj, -⟩
    exact Nat.not_lt_zero j hj.lt
  | cons a before ih =>
    have hlist : (a :: before).reverse ++ rest = before.reverse ++ a :: rest := by simp
    have hat : (before.reverse ++ a :: rest)[before.length]? = some a := by simp
    rw [hlist, List.length_cons]
    by_cases hblank : IsBlank sym a
    · rw [followsContext_succ_of_blank hat hblank, isContext_cons_of_blank hblank, ← ih]
    · rw [followsContext_succ_of_solid hat hblank, isContext_cons_of_solid hblank,
        exists_pred_iff]
      simp only [Bool.or_eq_true, Bool.and_eq_true, List.any_eq_true, decide_eq_true_eq]

theorem isForeign_iff (before : List α) (a : α) (after : List α) :
    isForeign sym before a after = true ↔
      Foreign sym (before.reverse ++ a :: after) before.length := by
  have hat : (before.reverse ++ a :: after)[before.length]? = some a := by simp
  have hafter : (before.reverse ++ a :: after)[before.length + 1]? = after.head? := by
    rw [List.getElem?_append_right (by simp)]
    simp [List.head?_eq_getElem?]
  simp only [isForeign, Foreign, TouchesBrace, hat, hafter, Option.some.injEq, Bool.or_eq_true,
    Bool.and_eq_true, decide_eq_true_eq, isContext_iff before (a :: after), exists_pred_iff]

theorem length_blankFrom (before s : List α) : (blankFrom sym before s).length = s.length := by
  induction s generalizing before with
  | nil => rfl
  | cons a rest ih => simp only [blankFrom, List.length_cons, ih]

/-- Judging each item by itself is the rule: what is foreign becomes a space, and nothing else
    changes. -/
theorem getElem?_blankFrom (before s : List α) (i : Nat) :
    (Foreign sym (before.reverse ++ s) (before.length + i) →
      (blankFrom sym before s)[i]? = some (sym ' ')) ∧
    (¬ Foreign sym (before.reverse ++ s) (before.length + i) →
      (blankFrom sym before s)[i]? = s[i]?) := by
  induction s generalizing before i with
  | nil =>
    refine ⟨fun h => ?_, fun _ => rfl⟩
    -- Beyond the end there is nothing that could be foreign.
    have hnone : (before.reverse ++ [])[before.length + i]? = none := by simp
    rw [Foreign, hnone] at h
    simp at h
  | cons a rest ih =>
    cases i with
    | zero =>
      have hiff := @isForeign_iff _ _ sym before a rest
      simp only [Nat.add_zero, blankFrom, List.getElem?_cons_zero]
      constructor
      · intro h
        rw [if_pos (hiff.mpr h)]
      · intro h
        rw [if_neg (fun hyes => h (hiff.mp hyes))]
    | succ i =>
      have hnext := ih (a :: before) i
      have hlist : (a :: before).reverse ++ rest = before.reverse ++ a :: rest := by simp
      have hplace : (a :: before).length + i = before.length + (i + 1) := by
        rw [List.length_cons]
        omega
      rw [hlist, hplace] at hnext
      simpa only [blankFrom, List.getElem?_cons_succ] using hnext

end

/-! ## Reading pairs -/

theorem isBlank_eq (b : UInt8) : Bytes.isBlank b = decide (IsBlank byte b) := by
  simp [Bytes.isBlank, IsBlank]

theorem isMaybeAfter_eq (before : Bytes) : isMaybeAfter before = isContext byte before := by
  have hblank : Bytes.isBlank = fun b => decide (IsBlank byte b) := funext isBlank_eq
  unfold isMaybeAfter isContext
  rw [hblank]
  cases before.dropWhile fun b => decide (IsBlank byte b) with
  | nil => rfl
  | cons b rest =>
    have hcontext : maybeContext.contains b = contextMarks.any fun c => b = byte c := by
      simp [maybeContext, contextMarks]
    dsimp only
    by_cases hb : b = byte '>'
    · -- The head of an arrow is no context mark itself.
      have harrow : (contextMarks.any fun c => b = byte c) = false := by
        rw [hb]
        decide
      rw [if_pos hb, harrow]
      simp [hb]
    · rw [if_neg hb, hcontext]
      simp [hb]

theorem isForeign_question (before after : Bytes) :
    isForeign byte before (byte '?') after = isMaybeAfter before := by
  have hbar : byte '?' ≠ byte '|' := by decide
  simp [isForeign, hbar, isMaybeAfter_eq]

theorem isForeign_of_ne {b : UInt8} (hquestion : b ≠ byte '?') (before after : Bytes) :
    isForeign byte before b after = true ↔
      b = byte '|' ∧ (before.head? = some (byte '\x7b') ∨ after.head? = some (byte '\x7d')) := by
  simp [isForeign, hquestion]

/-- Reading a bar and its brace together comes to the same as judging each byte by itself, if the
    reading does not begin between an opening brace and its bar. -/
theorem maskFrom_eq_blankFrom (before s : Bytes)
    (h : ¬ (before.head? = some (byte '\x7b') ∧ s.head? = some (byte '|'))) :
    maskFrom before s = blankFrom byte before s := by
  have hother : ∀ {a : UInt8} {before rest : Bytes}, a ≠ byte '\x7b' →
      ¬ ((a :: before).head? = some (byte '\x7b') ∧ rest.head? = some (byte '|')) :=
    fun ha hpair => ha (Option.some.inj hpair.1)
  fun_induction maskFrom before s with
  | case1 => rfl
  | case2 before b =>
    by_cases hb : b = byte '?'
    · subst hb
      simp [blankFrom, isForeign_question]
    · have hkept : ¬ isForeign byte before b [] = true := by
        rw [isForeign_of_ne hb]
        rintro ⟨rfl, hopen | hclose⟩
        · exact h ⟨hopen, rfl⟩
        · cases hclose
      simp [blankFrom, hb, hkept]
  | case3 before b rest ih =>
    -- A question mark is read alone, and it is no brace for what follows.
    rw [blankFrom, isForeign_question, ih (hother (by decide))]
  | case4 before a b rest _ hpair ih =>
    -- The brace is kept and its bar is foreign. Neither is a brace for what follows.
    obtain ⟨rfl, rfl⟩ := hpair
    have hbrace : ¬ isForeign byte before (byte '\x7b') (byte '|' :: rest) = true := by
      rw [isForeign_of_ne (by decide)]
      exact fun hbar => absurd hbar.1 (by decide)
    have hbar : isForeign byte (byte '\x7b' :: before) (byte '|') rest = true := by
      rw [isForeign_of_ne (by decide)]
      exact ⟨rfl, .inl rfl⟩
    rw [blankFrom, if_neg hbrace, blankFrom, if_pos hbar, ih (hother (by decide))]
  | case5 before a b rest _ _ hpair ih =>
    -- The bar is foreign and its brace is kept. A closing brace opens nothing for what follows.
    obtain ⟨rfl, rfl⟩ := hpair
    have hbar : isForeign byte before (byte '|') (byte '\x7d' :: rest) = true := by
      rw [isForeign_of_ne (by decide)]
      exact ⟨rfl, .inr rfl⟩
    have hbrace : ¬ isForeign byte (byte '|' :: before) (byte '\x7d') rest = true := by
      rw [isForeign_of_ne (by decide)]
      exact fun hbar => absurd hbar.1 (by decide)
    rw [blankFrom, if_pos hbar, blankFrom, if_neg hbrace, ih (hother (by decide))]
  | case6 before a b rest hquestion hopen hclose ih =>
    -- A bar that is read alone has an opening brace neither before it, by the hypothesis, nor a
    -- closing one behind it.
    have hkept : ¬ isForeign byte before a (b :: rest) = true := by
      rw [isForeign_of_ne hquestion]
      rintro ⟨rfl, hbefore | hafter⟩
      · exact h ⟨hbefore, rfl⟩
      · exact hclose ⟨rfl, Option.some.inj hafter⟩
    have hnext : ¬ ((a :: before).head? = some (byte '\x7b') ∧
        (b :: rest).head? = some (byte '|')) := by
      rintro ⟨ha, hb⟩
      exact hopen ⟨Option.some.inj ha, Option.some.inj hb⟩
    rw [blankFrom, if_neg hkept, ih hnext]

theorem mask_eq_blankFrom (s : Bytes) : mask s = blankFrom byte [] s :=
  maskFrom_eq_blankFrom [] s (by simp)

theorem length_mask (s : Bytes) : (mask s).length = s.length := by
  rw [mask_eq_blankFrom, length_blankFrom]

/-- The mask turns foreign punctuation into spaces. -/
theorem getElem?_mask_of_foreign {s : Bytes} {i : Nat} (h : Foreign byte s i) :
    (mask s)[i]? = some (byte ' ') := by
  rw [mask_eq_blankFrom]
  exact (getElem?_blankFrom [] s i).1 (by simpa using h)

/-- The mask keeps everything else. -/
theorem getElem?_mask_of_not_foreign {s : Bytes} {i : Nat} (h : ¬ Foreign byte s i) :
    (mask s)[i]? = s[i]? := by
  rw [mask_eq_blankFrom]
  exact (getElem?_blankFrom [] s i).2 (by simpa using h)

/-- **The mask judges each byte by its neighbourhood.** The masked text is as long as the source.
    It has a space where the source has a question mark that follows, over blanks, a context mark or
    an arrow, and where it has a bar with an opening brace before it or a closing one behind it. It
    has the byte of the source everywhere else. Whether a question mark follows a context is
    what the mask itself asks the bytes before it. -/
theorem mask_by_position (s : Bytes) :
    (mask s).length = s.length ∧
    (∀ i, Foreign byte s i → (mask s)[i]? = some (byte ' ')) ∧
    (∀ i, ¬ Foreign byte s i → (mask s)[i]? = s[i]?) ∧
    ∀ i ≤ s.length, isMaybeAfter (s.take i).reverse = true ↔ FollowsContext byte s i := by
  refine ⟨length_mask s, fun i => getElem?_mask_of_foreign,
    fun i => getElem?_mask_of_not_foreign, fun i hi => ?_⟩
  have hiff := @isContext_iff _ _ byte (s.take i).reverse (s.drop i)
  have hlength : (s.take i).length = i := by
    rw [List.length_take]
    omega
  rwa [List.reverse_reverse, List.take_append_drop, List.length_reverse, hlength,
    ← isMaybeAfter_eq] at hiff

/-- Bars that share a brace, a bar that two braces claim, and question marks beside masked bars. -/
example : mask (Utf8.ofString "\x7b|\x7d \x7b||\x7d a|?b \x7b|?c|\x7d ??d") =
    Utf8.ofString "\x7b \x7d \x7b  \x7d a| b \x7b  c \x7d ??d" := by decide +kernel

end ArityFill.Source
