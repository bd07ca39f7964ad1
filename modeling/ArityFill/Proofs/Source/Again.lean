import ArityFill.Proofs.Source.Blanked
import ArityFill.Proofs.Source.Foreign

/-! # Masking twice

    A question mark is judged by the source before it, where every mark still stands. In a masked
    text some of them are blanks, and a second pass looks past these. So it finds the mark of a
    maybe type where the first pass saw one mark behind another, as in `: ??T`, and nowhere else.

    What is blanked only matters through what a look back meets. The lemmas are about any text in
    which some foreign punctuation is blanked (`Blanked (Foreign byte s) s u`):

    - `FollowsContext.blanked`: a question mark that follows a context still follows one,
    - `followsContext_of_blanked`: it follows a new one only over a question mark that is blanked.

    The second fact is what a blanked bar cannot do, because a bar is a context mark itself.
-/

namespace ArityFill.Source

open Bytes (Blanked)

/-! ## Where a look back ends -/

section
variable {α : Type} {sym : Char → α} {s : List α} {i j : Nat}

/-- A look back ends at one place only. -/
theorem LastSolid.unique {k : Nat} (hj : LastSolid sym s i j) (hk : LastSolid sym s i k) :
    j = k := by
  -- Of two places the left one would have a blank at the right one.
  have hnot : ∀ {a b : Nat}, LastSolid sym s i a → LastSolid sym s i b → ¬ a < b := by
    intro a b ha hb hlt
    obtain ⟨x, hx, hsolid⟩ := hb.solid
    obtain ⟨y, hy, hblank⟩ := ha.blank b hlt hb.lt
    rw [hx, Option.some.injEq] at hy
    exact hsolid (hy ▸ hblank)
  have hleft := hnot hj hk
  have hright := hnot hk hj
  omega

/-- A look back ends somewhere if it would meet something solid and there is no gap up to it. -/
theorem exists_lastSolid (hlt : j < i) (hsolid : ∃ a, s[j]? = some a ∧ ¬ IsBlank sym a)
    (hthere : ∀ k, j < k → k < i → ∃ a, s[k]? = some a) : ∃ l, LastSolid sym s i l := by
  induction i with
  | zero => exact absurd hlt (Nat.not_lt_zero j)
  | succ i ih =>
    by_cases hlast : j = i
    · subst hlast
      obtain ⟨a, ha, hsolid⟩ := hsolid
      exact ⟨j, (lastSolid_succ_of_solid ha hsolid).mpr rfl⟩
    · have hji : j < i := by omega
      obtain ⟨a, ha⟩ := hthere i hji (Nat.lt_succ_self i)
      by_cases hblank : IsBlank sym a
      · have hbefore : ∀ k, j < k → k < i → ∃ a, s[k]? = some a := by
          intro k hjk hki
          exact hthere k hjk (by omega)
        obtain ⟨l, hl⟩ := ih hji hbefore
        exact ⟨l, (lastSolid_succ_of_blank ha hblank).mpr hl⟩
      · exact ⟨i, (lastSolid_succ_of_solid ha hblank).mpr rfl⟩

/-- Before and behind some blanks the context is the same. -/
theorem followsContext_over_blanks (hle : j ≤ i)
    (hblank : ∀ k, j ≤ k → k < i → ∃ a, s[k]? = some a ∧ IsBlank sym a) :
    FollowsContext sym s i ↔ FollowsContext sym s j := by
  induction i with
  | zero =>
    have hj : j = 0 := Nat.le_zero.mp hle
    rw [hj]
  | succ i ih =>
    by_cases hlast : j = i + 1
    · rw [hlast]
    · have hji : j ≤ i := by omega
      obtain ⟨a, ha, hspace⟩ := hblank i hji (Nat.lt_succ_self i)
      rw [followsContext_succ_of_blank ha hspace]
      apply ih hji
      intro k hjk hki
      exact hblank k hjk (by omega)

end

/-! ## A text in which foreign punctuation is blanked -/

section
variable {s u : Bytes} {i j : Nat}

/-- What is no question mark and no bar is not foreign. -/
theorem not_foreign_of_ne {b : UInt8} (hi : s[i]? = some b) (hquestion : b ≠ byte '?')
    (hbar : b ≠ byte '|') : ¬ Foreign byte s i := by
  intro hforeign
  rw [Foreign, hi, Option.some.injEq, Option.some.injEq] at hforeign
  rcases hforeign with hmark | hmark
  · exact hquestion hmark.1
  · exact hbar hmark.1

variable (h : Blanked (Foreign byte s) s u)
include h

theorem getElem?_of_ne_space {b : UInt8} (hb : b ≠ byte ' ') (hi : u[i]? = some b) :
    s[i]? = some b := by
  rcases h.same_or_space i with hsame | hspace
  · rw [← hsame]
    exact hi
  · rw [hspace.1, Option.some.injEq] at hi
    exact absurd hi.symm hb

theorem getElem?_of_not_foreign (hi : ¬ Foreign byte s i) : u[i]? = s[i]? := by
  rcases h.same_or_space i with hsame | hspace
  · exact hsame
  · exact absurd hspace.2 hi

theorem eq_space_of_ne (hi : u[i]? ≠ s[i]?) : u[i]? = some (byte ' ') :=
  ((h.same_or_space i).resolve_left hi).1

/-- A blank is a blank afterwards. -/
theorem blank_of_blank (hi : ∃ b, s[i]? = some b ∧ IsBlank byte b) :
    ∃ b, u[i]? = some b ∧ IsBlank byte b := by
  by_cases hkept : u[i]? = s[i]?
  · rw [hkept]
    exact hi
  · exact ⟨byte ' ', eq_space_of_ne h hkept, by decide⟩

/-- If the byte where a look back ends is kept, then it still ends there. -/
theorem lastSolid_of_kept (hkept : u[j]? = s[j]?) (hj : LastSolid byte s i j) :
    LastSolid byte u i j := by
  refine ⟨hj.lt, ?_, ?_⟩
  · rw [hkept]
    exact hj.solid
  · intro k hjk hki
    exact blank_of_blank h (hj.blank k hjk hki)

/-- No bar comes to touch a brace. -/
theorem touchesBrace_of_blanked (hi : TouchesBrace byte u i) : TouchesBrace byte s i := by
  rcases hi with ⟨k, hk, hopen⟩ | hclose
  · exact .inl ⟨k, hk, getElem?_of_ne_space h (by decide) hopen⟩
  · exact .inr (getElem?_of_ne_space h (by decide) hclose)

/-- A question mark that follows a context still follows one. If the context mark itself is gone,
    then it was the bar of an opening brace, and the brace is a context mark too. -/
theorem FollowsContext.blanked (hi : s[i]? = some (byte '?')) (hs : FollowsContext byte s i) :
    FollowsContext byte u i := by
  obtain ⟨j, hj, hcontext⟩ := hs
  by_cases hkept : u[j]? = s[j]?
  · refine ⟨j, lastSolid_of_kept h hkept hj, ?_⟩
    rw [hkept]
    rcases hcontext with hmark | ⟨harrow, k, hjk, hk⟩
    · exact .inl hmark
    · refine .inr ⟨harrow, k, hjk, ?_⟩
      rw [getElem?_of_not_foreign h (not_foreign_of_ne hk (by decide) (by decide))]
      exact hk
  · have hspace := eq_space_of_ne h hkept
    rcases h.place_of_ne hkept with ⟨hquestion, _⟩ | ⟨hbar, hbrace⟩
    · -- A question mark is neither a context mark nor the head of an arrow.
      have hmarks : (contextMarks.all fun c => byte '?' ≠ byte c) = true := by decide
      rw [hquestion] at hcontext
      rcases hcontext with ⟨c, hc, hmark⟩ | ⟨harrow, _⟩
      · have hne := of_decide_eq_true (List.all_eq_true.mp hmarks c hc)
        exact absurd (Option.some.inj hmark) hne
      · exact absurd harrow (by decide)
    · rcases hbrace with ⟨k, hjk, hopen⟩ | hclose
      · have hk : u[k]? = some (byte '\x7b') := by
          rw [getElem?_of_not_foreign h (not_foreign_of_ne hopen (by decide) (by decide))]
          exact hopen
        have hlt := hj.lt
        refine ⟨k, ⟨by omega, ⟨_, hk, by decide⟩, ?_⟩, .inl ⟨'\x7b', by decide, hk⟩⟩
        intro l hkl hli
        by_cases hl : l = j
        · rw [hl]
          exact ⟨_, hspace, by decide⟩
        · exact blank_of_blank h (hj.blank l (by omega) hli)
      · -- A closing brace would stand between the bar and the question mark.
        exfalso
        by_cases hnext : j + 1 = i
        · rw [hnext, hi] at hclose
          exact absurd hclose (by decide)
        · have hlt := hj.lt
          obtain ⟨b, hb, hblank⟩ := hj.blank (j + 1) (by omega) (by omega)
          rw [hclose, Option.some.injEq] at hb
          exact absurd (hb ▸ hblank) (by decide)

/-- A place comes to follow a context only over a question mark that is blanked. -/
theorem followsContext_of_blanked (hu : FollowsContext byte u i) :
    FollowsContext byte s i ∨
      ∃ j, LastSolid byte s i j ∧ s[j]? = some (byte '?') ∧ u[j]? = some (byte ' ') := by
  obtain ⟨j, hj, hcontext⟩ := hu
  -- The source has no gaps either, and what is solid there now was solid before.
  have hend : ∃ l, LastSolid byte s i l := by
    obtain ⟨b, hb, hsolid⟩ := hj.solid
    have hne : b ≠ byte ' ' := by
      intro hspace
      exact hsolid (hspace ▸ by decide)
    refine exists_lastSolid hj.lt ⟨b, getElem?_of_ne_space h hne hb, hsolid⟩ ?_
    intro k hjk hki
    obtain ⟨c, hc, _⟩ := hj.blank k hjk hki
    obtain ⟨hlt, _⟩ := List.getElem?_eq_some_iff.mp hc
    rw [h.length_eq] at hlt
    exact ⟨_, List.getElem?_eq_getElem hlt⟩
  obtain ⟨l, hl⟩ := hend
  by_cases hkept : u[l]? = s[l]?
  · have hsame : j = l := hj.unique (lastSolid_of_kept h hkept hl)
    subst hsame
    left
    refine ⟨j, hl, ?_⟩
    rw [← hkept]
    rcases hcontext with hmark | ⟨harrow, k, hjk, hk⟩
    · exact .inl hmark
    · exact .inr ⟨harrow, k, hjk, getElem?_of_ne_space h (by decide) hk⟩
  · rcases h.place_of_ne hkept with ⟨hquestion, _⟩ | ⟨hbar, _⟩
    · exact .inr ⟨l, hl, hquestion, eq_space_of_ne h hkept⟩
    · -- A bar is a context mark whether it is blanked or not.
      exact .inl ⟨l, hl, .inl ⟨'|', by decide, hbar⟩⟩

end

/-! ## The second pass -/

section
variable (s : Bytes) (i : Nat)

theorem blanked_mask : Blanked (Foreign byte s) s (mask s) := by
  refine ⟨length_mask s, ?_⟩
  intro k
  by_cases hforeign : Foreign byte s k
  · exact .inr ⟨getElem?_mask_of_foreign hforeign, hforeign⟩
  · exact .inl (getElem?_mask_of_not_foreign hforeign)

/-- The mask changes a text where something foreign stands, and nowhere else. -/
theorem mask_ne_iff : (mask s)[i]? ≠ s[i]? ↔ Foreign byte s i := by
  constructor
  · intro hne
    exact (blanked_mask s).place_of_ne hne
  · intro hforeign
    rw [getElem?_mask_of_foreign hforeign]
    rcases hforeign with ⟨hquestion, _⟩ | ⟨hbar, _⟩
    · rw [hquestion]
      decide
    · rw [hbar]
      decide

/-- Whether at `i` stands a question mark that the mask keeps, and the last solid byte before it is
    a question mark that the mask blanks. -/
def NestedMaybe : Prop :=
  s[i]? = some (byte '?') ∧ (mask s)[i]? = some (byte '?') ∧
    ∃ j, LastSolid byte s i j ∧ s[j]? = some (byte '?') ∧ (mask s)[j]? = some (byte ' ')

/-- No bar of a masked text touches a brace. -/
theorem not_touchesBrace_mask (hbar : (mask s)[i]? = some (byte '|')) :
    ¬ TouchesBrace byte (mask s) i := by
  intro hbrace
  have hforeign : Foreign byte s i :=
    .inr ⟨getElem?_of_ne_space (blanked_mask s) (by decide) hbar,
      touchesBrace_of_blanked (blanked_mask s) hbrace⟩
  rw [getElem?_mask_of_foreign hforeign] at hbar
  exact absurd hbar (by decide)

/-- A question mark that the mask keeps follows a context in the masked text exactly if the one
    before it is blanked. -/
theorem followsContext_mask_iff (hi : (mask s)[i]? = some (byte '?')) :
    FollowsContext byte (mask s) i ↔
      ∃ j, LastSolid byte s i j ∧ s[j]? = some (byte '?') ∧
        (mask s)[j]? = some (byte ' ') := by
  have hblanked := blanked_mask s
  constructor
  · intro hu
    rcases followsContext_of_blanked hblanked hu with hs | hnested
    · -- It would have been blanked itself.
      have hforeign : Foreign byte s i :=
        .inl ⟨getElem?_of_ne_space hblanked (by decide) hi, hs⟩
      rw [getElem?_mask_of_foreign hforeign] at hi
      exact absurd hi (by decide)
    · exact hnested
  · intro hnested
    obtain ⟨j, hj, hquestion, hspace⟩ := hnested
    have hforeign : Foreign byte s j := by
      rw [← mask_ne_iff, hspace, hquestion]
      decide
    have hcontext : FollowsContext byte s j := by
      rcases hforeign with ⟨_, hcontext⟩ | ⟨hbar, _⟩
      · exact hcontext
      · rw [hquestion] at hbar
        exact absurd hbar (by decide)
    -- In the masked text there are only blanks from the blanked mark on.
    have hblank : ∀ k, j ≤ k → k < i → ∃ b, (mask s)[k]? = some b ∧ IsBlank byte b := by
      intro k hjk hki
      by_cases hk : k = j
      · rw [hk]
        exact ⟨_, hspace, by decide⟩
      · exact blank_of_blank hblanked (hj.blank k (by omega) hki)
    rw [followsContext_over_blanks (Nat.le_of_lt hj.lt) hblank]
    exact hcontext.blanked hblanked hquestion

theorem foreign_mask_iff : Foreign byte (mask s) i ↔ NestedMaybe s i := by
  constructor
  · intro hforeign
    rcases hforeign with ⟨hquestion, hcontext⟩ | ⟨hbar, hbrace⟩
    · exact ⟨getElem?_of_ne_space (blanked_mask s) (by decide) hquestion, hquestion,
        (followsContext_mask_iff s i hquestion).mp hcontext⟩
    · exact absurd hbrace (not_touchesBrace_mask s i hbar)
  · intro hnested
    obtain ⟨_, hquestion, hbefore⟩ := hnested
    exact .inl ⟨hquestion, (followsContext_mask_iff s i hquestion).mpr hbefore⟩

end

/-- **What a second pass of the mask changes.** It blanks the question marks that the first pass
    kept behind, over blanks, a question mark that it blanked, and nothing else. So the mask is
    idempotent exactly on the texts without such a nested mark. Bars play no part in this: blanking
    some bars of exact object types neither makes a question mark follow a context nor keeps it from
    following one, and it makes no bar touch a brace. In a masked text none does. -/
theorem mask_again_by_position (s : Bytes) :
    (∀ i, (mask (mask s))[i]? ≠ (mask s)[i]? ↔ NestedMaybe s i) ∧
    (mask (mask s) = mask s ↔ ∀ i, ¬ NestedMaybe s i) ∧
    (∀ u, Blanked (fun k => s[k]? = some (byte '|') ∧ TouchesBrace byte s k) s u →
      ∀ i, (s[i]? = some (byte '?') → (FollowsContext byte u i ↔ FollowsContext byte s i)) ∧
        (u[i]? = some (byte '|') ∧ TouchesBrace byte u i →
          s[i]? = some (byte '|') ∧ TouchesBrace byte s i)) ∧
    ∀ i, (mask s)[i]? = some (byte '|') → ¬ TouchesBrace byte (mask s) i := by
  have hchanged : ∀ i, (mask (mask s))[i]? ≠ (mask s)[i]? ↔ NestedMaybe s i := by
    intro i
    rw [mask_ne_iff, foreign_mask_iff]
  refine ⟨hchanged, ?_, ?_, not_touchesBrace_mask s⟩
  · constructor
    · intro hsame i hnested
      exact (hchanged i).mpr hnested (by rw [hsame])
    · intro hnone
      apply List.ext_getElem?
      intro i
      by_cases hsame : (mask (mask s))[i]? = (mask s)[i]?
      · exact hsame
      · exact absurd ((hchanged i).mp hsame) (hnone i)
  · intro u hbars i
    have hblanked : Blanked (Foreign byte s) s u := hbars.mono fun _ => .inr
    constructor
    · intro hi
      constructor
      · intro hu
        rcases followsContext_of_blanked hblanked hu with hs | ⟨j, _, hquestion, hspace⟩
        · exact hs
        · -- What is blanked is a bar, and no question mark.
          have hne : u[j]? ≠ s[j]? := by
            rw [hquestion, hspace]
            decide
          have hbar := (hbars.place_of_ne hne).1
          rw [hquestion] at hbar
          exact absurd hbar (by decide)
      · intro hs
        exact hs.blanked hblanked hi
    · intro hbar
      exact ⟨getElem?_of_ne_space hblanked (by decide) hbar.1,
        touchesBrace_of_blanked hblanked hbar.2⟩

/-- A mark behind another one in an exact object type: one pass blanks the first mark, and two
    passes blank both. The bar alone changes nothing about the first mark. -/
theorem mask_again_by_position_exact :
    let s := Utf8.ofString "\x7b|??T"
    let u := Utf8.ofString "\x7b ??T"
    Blanked (fun k => s[k]? = some (byte '|') ∧ TouchesBrace byte s k) s u ∧
    mask s = Utf8.ofString "\x7b  ?T" ∧ mask (mask s) = Utf8.ofString "\x7b   T" ∧
    NestedMaybe s 3 ∧ (FollowsContext byte u 2 ↔ FollowsContext byte s 2) := by
  intro s u
  have hbars : Blanked (fun k => s[k]? = some (byte '|') ∧ TouchesBrace byte s k) s u :=
    .cons (.inl rfl) (.cons (.inr ⟨rfl, rfl, .inl ⟨0, rfl, rfl⟩⟩)
      (.cons (.inl rfl) (.cons (.inl rfl) (.cons (.inl rfl) .nil))))
  have honce : mask s = Utf8.ofString "\x7b  ?T" := by decide +kernel
  have htwice : mask (mask s) = Utf8.ofString "\x7b   T" := by decide +kernel
  obtain ⟨hchanged, _, hcontext, _⟩ := mask_again_by_position s
  refine ⟨hbars, honce, htwice, ?_, (hcontext u hbars 2).1 rfl⟩
  rw [← hchanged 3, htwice, honce]
  decide +kernel

end ArityFill.Source
