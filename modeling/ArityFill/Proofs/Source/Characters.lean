import ArityFill.Proofs.Source.Foreign
import ArityFill.Proofs.Text.Synchronized

/-! # Masking the characters of a text

    The mask works on bytes, and looks back over them one at a time, while a character can be
    several bytes long. It still comes to the same as masking the characters of a text by the same
    rule, because every mark of the rule is a character of ASCII, and no byte of a longer character
    is one (`Beyond`).

    - `Beyond.isForeign_eq`: what is beyond ASCII is never foreign, and gives no context,
    - `blankFrom_encode`: blanking the bytes of a text is encoding the text with characters blanked.
-/

namespace ArityFill.Source

open Utf8 (encode)

/-! ## Items beyond ASCII -/

theorem toNat_lt_of_mem_blanks {c : Char} (h : c ∈ [' ', '\t', '\r', '\n']) : c.toNat < 0x80 := by
  have hall : ([' ', '\t', '\r', '\n'].all fun c => c.toNat < 0x80) = true := by decide
  simpa using List.all_eq_true.mp hall c h

theorem toNat_lt_of_mem_contextMarks {c : Char} (h : c ∈ contextMarks) : c.toNat < 0x80 := by
  have hall : (contextMarks.all fun c => c.toNat < 0x80) = true := by decide
  simpa using List.all_eq_true.mp hall c h

section
variable {α : Type} {sym : Char → α} {a : α}

/-- Whether an item is written for no character of ASCII. -/
def Beyond (sym : Char → α) (a : α) : Prop :=
  ∀ p : Char, p.toNat < 0x80 → a ≠ sym p

theorem Beyond.not_isBlank (h : Beyond sym a) : ¬ IsBlank sym a := by
  rintro ⟨c, hc, rfl⟩
  exact h c (toNat_lt_of_mem_blanks hc) rfl

theorem Beyond.ne_contextMark (h : Beyond sym a) {c : Char} (hc : c ∈ contextMarks) : a ≠ sym c :=
  h c (toNat_lt_of_mem_contextMarks hc)

variable [DecidableEq α]

/-- Behind an item beyond ASCII no maybe type begins. -/
theorem Beyond.isContext_cons (h : Beyond sym a) (before : List α) :
    isContext sym (a :: before) = false := by
  have hmarks : (contextMarks.any fun c => a = sym c) = false := by
    rw [List.any_eq_false]
    intro c hc
    simpa using h.ne_contextMark hc
  rw [isContext_cons_of_solid h.not_isBlank, hmarks]
  simp [h '>' (by decide)]

/-- An item beyond ASCII is never foreign. -/
theorem Beyond.isForeign_eq (h : Beyond sym a) (before after : List α) :
    isForeign sym before a after = false := by
  simp [isForeign, h '?' (by decide), h '|' (by decide)]

/-- Items beyond ASCII are kept. -/
theorem blankFrom_append_of_beyond {as : List α} (has : ∀ a ∈ as, Beyond sym a)
    (before rest : List α) :
    blankFrom sym before (as ++ rest) = as ++ blankFrom sym (as.reverse ++ before) rest := by
  induction as generalizing before with
  | nil => rfl
  | cons a as ih =>
    have ha : Beyond sym a := has a List.mem_cons_self
    have hrest := ih (fun b hb => has b (List.mem_cons_of_mem _ hb)) (a :: before)
    simp only [List.cons_append, blankFrom, ha.isForeign_eq, Bool.false_eq_true, if_false, hrest,
      List.reverse_cons, List.append_assoc, List.nil_append]

end

/-! ## The bytes of characters -/

theorem toNat_byte {c : Char} (hc : c.toNat < 0x80) : (byte c).toNat = c.toNat :=
  Utf8.toNat_ofNat_small (by omega)

theorem byte_inj {c p : Char} (hc : c.toNat < 0x80) (hp : p.toNat < 0x80) :
    byte c = byte p ↔ c = p := by
  constructor
  · intro h
    have hvalue := congrArg UInt8.toNat h
    rw [toNat_byte hc, toNat_byte hp] at hvalue
    exact Char.toNat_inj.mp hvalue
  · rintro rfl
    rfl

theorem beyond_byte_of_le {b : UInt8} (hb : 0x80 ≤ b.toNat) : Beyond byte b := by
  rintro p hp rfl
  rw [toNat_byte hp] at hb
  omega

theorem beyond_id_of_le {c : Char} (hc : 0x80 ≤ c.toNat) : Beyond id c := by
  rintro p hp rfl
  exact absurd hp (Nat.not_lt.mpr hc)

theorem beyond_of_mem_encodeChar {c : Char} (hc : 0x80 ≤ c.toNat) :
    ∀ b ∈ String.utf8EncodeChar c, Beyond byte b :=
  fun _ hb => beyond_byte_of_le (Utf8.le_of_mem_encodeChar hc hb)

/-- A character of ASCII is its own byte. -/
theorem encodeChar_eq_byte {c : Char} (hc : c.toNat < 0x80) :
    String.utf8EncodeChar c = [byte c] := by
  rcases Utf8.encodeChar_cases c with ⟨-, hone⟩ | ⟨hbeyond, -⟩
  · exact hone
  · omega

/-- The bytes of a character, from its beginning or from its end, begin with a byte of ASCII exactly
    if it is that character. -/
theorem head?_append_encodeChar {c p : Char} (hp : p.toNat < 0x80) {bs : Bytes}
    (hbs : bs.Perm (String.utf8EncodeChar c)) (rest : Bytes) :
    (bs ++ rest).head? = some (byte p) ↔ c = p := by
  rcases Nat.lt_or_ge c.toNat 0x80 with hc | hc
  · rw [encodeChar_eq_byte hc, List.perm_singleton] at hbs
    rw [hbs, List.singleton_append, List.head?_cons, Option.some.injEq, byte_inj hc hp]
  · -- Both sides fail: the first byte is beyond ASCII, and so is the character.
    obtain ⟨lead, tails, hchar, -⟩ := Utf8.encodeChar_eq_cons c
    cases bs with
    | nil =>
      rw [hchar] at hbs
      exact absurd hbs.length_eq (by simp)
    | cons b bs =>
      have hb : b ∈ String.utf8EncodeChar c := hbs.mem_iff.mp List.mem_cons_self
      have hne : b ≠ byte p := beyond_of_mem_encodeChar hc b hb p hp
      have hne' : c ≠ p := beyond_id_of_le hc p hp
      simp [hne, hne']

theorem head?_encode {p : Char} (hp : p.toNat < 0x80) (cs : List Char) :
    (encode cs).head? = some (byte p) ↔ cs.head? = some p := by
  cases cs with
  | nil => simp
  | cons c cs =>
    rw [Utf8.encode_cons, head?_append_encodeChar hp (List.Perm.refl _)]
    simp

/-- The bytes of characters, both nearest first. -/
def bytesBack (before : List Char) : Bytes :=
  (encode before.reverse).reverse

theorem bytesBack_cons (c : Char) (before : List Char) :
    bytesBack (c :: before) = (String.utf8EncodeChar c).reverse ++ bytesBack before := by
  simp [bytesBack, encode]

theorem head?_bytesBack {p : Char} (hp : p.toNat < 0x80) (before : List Char) :
    (bytesBack before).head? = some (byte p) ↔ before.head? = some p := by
  cases before with
  | nil => simp [bytesBack]
  | cons c before =>
    rw [bytesBack_cons, head?_append_encodeChar hp (List.reverse_perm _)]
    simp

/-! ## The rule on bytes and on characters -/

theorem isBlank_byte_iff {c : Char} (hc : c.toNat < 0x80) :
    IsBlank byte (byte c) ↔ IsBlank id c := by
  exact exists_congr fun p => and_congr_right fun hp => byte_inj hc (toNat_lt_of_mem_blanks hp)

theorem any_contextMarks_byte {c : Char} (hc : c.toNat < 0x80) :
    (contextMarks.any fun p => byte c = byte p) = contextMarks.any fun p => c = id p := by
  rw [Bool.eq_iff_iff]
  simp only [List.any_eq_true, decide_eq_true_eq]
  exact exists_congr fun p => and_congr_right fun hp =>
    byte_inj hc (toNat_lt_of_mem_contextMarks hp)

/-- Looking back over bytes finds a context exactly if looking back over characters does. -/
theorem isContext_bytesBack (before : List Char) :
    isContext byte (bytesBack before) = isContext id before := by
  induction before with
  | nil => rfl
  | cons c before ih =>
    rw [bytesBack_cons]
    rcases Nat.lt_or_ge c.toNat 0x80 with hc | hc
    · rw [encodeChar_eq_byte hc, List.reverse_singleton, List.singleton_append]
      by_cases hblank : IsBlank id c
      · rw [isContext_cons_of_blank ((isBlank_byte_iff hc).mpr hblank),
          isContext_cons_of_blank hblank, ih]
      · have hblank' : ¬ IsBlank byte (byte c) := fun h => hblank ((isBlank_byte_iff hc).mp h)
        rw [isContext_cons_of_solid hblank', isContext_cons_of_solid hblank]
        simp only [any_contextMarks_byte hc, byte_inj hc (by decide : '>'.toNat < 0x80),
          head?_bytesBack (by decide : '='.toNat < 0x80), id_eq]
    · -- Both looks back end at the character, and neither finds a context there.
      obtain ⟨lead, tails, hchar, -⟩ := Utf8.encodeChar_eq_cons c
      cases hback : (String.utf8EncodeChar c).reverse with
      | nil =>
        rw [hchar] at hback
        simp at hback
      | cons b bs =>
        have hb : b ∈ String.utf8EncodeChar c := by
          rw [← List.mem_reverse, hback]
          exact List.mem_cons_self
        rw [List.cons_append, (beyond_of_mem_encodeChar hc b hb).isContext_cons,
          (beyond_id_of_le hc).isContext_cons]

theorem isForeign_encode {c : Char} (hc : c.toNat < 0x80) (before after : List Char) :
    isForeign byte (bytesBack before) (byte c) (encode after) = isForeign id before c after := by
  simp only [isForeign, isContext_bytesBack, byte_inj hc (by decide : '?'.toNat < 0x80),
    byte_inj hc (by decide : '|'.toNat < 0x80), head?_bytesBack (by decide : '\x7b'.toNat < 0x80),
    head?_encode (by decide : '\x7d'.toNat < 0x80), id_eq]

/-- Blanking the bytes of a text is encoding the text with its characters blanked. -/
theorem blankFrom_encode (before t : List Char) :
    blankFrom byte (bytesBack before) (encode t) = encode (blankFrom id before t) := by
  induction t generalizing before with
  | nil => rfl
  | cons c t ih =>
    have hnext := ih (c :: before)
    rw [bytesBack_cons] at hnext
    rw [Utf8.encode_cons, blankFrom, Utf8.encode_cons]
    rcases Nat.lt_or_ge c.toNat 0x80 with hc | hc
    · rw [encodeChar_eq_byte hc] at hnext ⊢
      rw [List.singleton_append, blankFrom, isForeign_encode hc, ← hnext]
      split
      · rw [encodeChar_eq_byte (by decide)]
        rfl
      · rw [encodeChar_eq_byte hc]
        rfl
    · rw [blankFrom_append_of_beyond (beyond_of_mem_encodeChar hc), hnext,
        (beyond_id_of_le hc).isForeign_eq]
      rfl

theorem mask_encode_eq (t : List Char) : mask (encode t) = encode (blankFrom id [] t) := by
  rw [mask_eq_blankFrom]
  exact blankFrom_encode [] t

/-- Bytes beyond ASCII are not masked. -/
theorem getElem?_mask_of_beyond {s : Bytes} {i : Nat} {b : UInt8} (hb : s[i]? = some b)
    (hbeyond : Beyond byte b) : (mask s)[i]? = some b := by
  rw [getElem?_mask_of_not_foreign, hb]
  rintro (⟨hquestion, -⟩ | ⟨hbar, -⟩)
  · rw [hb, Option.some.injEq] at hquestion
    exact hbeyond '?' (by decide) hquestion
  · rw [hb, Option.some.injEq] at hbar
    exact hbeyond '|' (by decide) hbar

/-- **Masking the bytes of a text is masking its characters.** The masked bytes of a text are the
    bytes of a text of as many characters, in which the foreign punctuation has become spaces and
    all other characters are the same; foreign is what the rule for bytes says, read for characters.
    Every byte of a character that takes more than one is kept, and none of them is a blank, a
    context mark, or one of the marks that the mask looks for. -/
theorem mask_by_character (t : List Char) :
    (∃ t' : List Char, mask (encode t) = encode t' ∧ Utf8.decode (mask (encode t)) = some t' ∧
      t'.length = t.length ∧
      (∀ i, Foreign id t i → t'[i]? = some ' ') ∧
      ∀ i, ¬ Foreign id t i → t'[i]? = t[i]?) ∧
    ∀ front c back, t = front ++ c :: back → 1 < (String.utf8EncodeChar c).length →
      (∀ i, (encode front).length ≤ i → i < (encode (front ++ [c])).length →
        (mask (encode t))[i]? = (encode t)[i]?) ∧
      ∀ b ∈ String.utf8EncodeChar c, Bytes.isBlank b = false ∧ b ∉ maybeContext ∧
        b ∉ ['?', '|', '\x7b', '\x7d', '>', '='].map byte := by
  constructor
  · refine ⟨blankFrom id [] t, mask_encode_eq t, ?_, length_blankFrom [] t, fun i hi => ?_,
      fun i hi => ?_⟩
    · rw [mask_encode_eq, Utf8.decode_encode]
    · exact (getElem?_blankFrom [] t i).1 (by simpa using hi)
    · exact (getElem?_blankFrom [] t i).2 (by simpa using hi)
  · rintro front c back rfl hlong
    have hc : 0x80 ≤ c.toNat := by
      rcases Nat.lt_or_ge c.toNat 0x80 with hascii | hc
      · rw [encodeChar_eq_byte hascii] at hlong
        exact absurd hlong (Nat.lt_irrefl 1)
      · exact hc
    have hbeyond := beyond_of_mem_encodeChar hc
    constructor
    · intro i hle hlt
      obtain ⟨j, rfl⟩ := Nat.exists_eq_add_of_le hle
      have hj : j < (String.utf8EncodeChar c).length := by
        rw [Utf8.encode_append, List.length_append, Utf8.encode_cons, Utf8.encode_nil,
          List.append_nil] at hlt
        exact Nat.lt_of_add_lt_add_left hlt
      -- The offset lies within the bytes of the character.
      have hat : (encode (front ++ c :: back))[(encode front).length + j]? =
          some (String.utf8EncodeChar c)[j] := by
        rw [Utf8.encode_append, Utf8.encode_cons,
          List.getElem?_append_right (Nat.le_add_right _ _), Nat.add_sub_cancel_left,
          List.getElem?_append_left hj, List.getElem?_eq_getElem hj]
      rw [getElem?_mask_of_beyond hat (hbeyond _ (List.getElem_mem hj)), hat]
    · intro b hb
      refine ⟨?_, ?_, ?_⟩
      · rw [isBlank_eq]
        exact decide_eq_false (hbeyond b hb).not_isBlank
      · intro hmem
        have hmarks : maybeContext = contextMarks.map byte := rfl
        rw [hmarks, List.mem_map] at hmem
        obtain ⟨p, hp, hpb⟩ := hmem
        exact (hbeyond b hb).ne_contextMark hp hpb.symm
      · intro hmem
        obtain ⟨p, hp, hpb⟩ := List.mem_map.mp hmem
        have hascii : ∀ p ∈ ['?', '|', '\x7b', '\x7d', '>', '='], p.toNat < 0x80 := by simp
        exact hbeyond b hb p (hascii p hp) hpb.symm

end ArityFill.Source
