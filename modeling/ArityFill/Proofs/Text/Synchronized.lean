import ArityFill.Proofs.Text.Utf8

/-! # Bytes that know their place

    Of each byte of an encoded text it can be told, without looking at any other, whether it is a
    character of ASCII, begins a longer character, or continues one (`encodeChar_cases`). So a
    reader who starts anywhere finds the next character by himself:

    - `boundary_of_not_tail`: a byte that continues no character stands at a boundary,
    - `boundaries_of_isText_slice`: bytes of a text that are text by themselves were not cut out
      of the middle of a character.
-/

namespace ArityFill.Utf8

/-! ## The bytes of one character -/

theorem isTail_iff {b : UInt8} : isTail b = true ↔ 0x80 ≤ b.toNat ∧ b.toNat < 0xC0 := by
  simp only [isTail, decide_eq_true_eq]
  omega

theorem isTail_ofNat (n : Nat) : isTail (UInt8.ofNat (n % 64 + 0x80)) = true := by
  rw [isTail_iff, toNat_ofNat_small (by omega)]
  omega

/-- A character of ASCII is one byte. Any other character is a byte that continues none, and then
    bytes that do. -/
theorem encodeChar_cases (c : Char) :
    c.toNat < 0x80 ∧ String.utf8EncodeChar c = [UInt8.ofNat c.toNat] ∨
    0x80 ≤ c.toNat ∧ ∃ lead tails, String.utf8EncodeChar c = lead :: tails ∧
      0xC0 ≤ lead.toNat ∧ ∀ b ∈ tails, isTail b = true := by
  have hc : c.val.toNat = c.toNat := rfl
  unfold String.utf8EncodeChar
  dsimp only
  rw [hc]
  split
  · next h1 => exact .inl ⟨by omega, rfl⟩
  · next h1 =>
    refine .inr ⟨by omega, ?_⟩
    -- The lead byte tells the length, and all bytes behind it are tails.
    split
    · have hlead := toNat_ofNat_small (n := c.toNat / 64 % 32 + 0xc0) (by omega)
      refine ⟨_, _, rfl, by omega, ?_⟩
      simp [-UInt8.ofNat_add, isTail_ofNat]
    · split
      · have hlead := toNat_ofNat_small (n := c.toNat / 4096 % 16 + 0xe0) (by omega)
        refine ⟨_, _, rfl, by omega, ?_⟩
        simp [-UInt8.ofNat_add, isTail_ofNat]
      · have hlead := toNat_ofNat_small (n := c.toNat / 262144 % 8 + 0xf0) (by omega)
        refine ⟨_, _, rfl, by omega, ?_⟩
        simp [-UInt8.ofNat_add, isTail_ofNat]

/-- Every character has a first byte, which continues none, and all others continue it. -/
theorem encodeChar_eq_cons (c : Char) :
    ∃ lead tails, String.utf8EncodeChar c = lead :: tails ∧ isTail lead = false ∧
      ∀ b ∈ tails, isTail b = true := by
  rcases encodeChar_cases c with ⟨hsmall, hone⟩ | ⟨_, lead, tails, hmore, hlead, htails⟩
  · refine ⟨_, [], hone, ?_, by simp⟩
    have hvalue := toNat_ofNat_small (n := c.toNat) (by omega)
    rw [Bool.eq_false_iff, ne_eq, isTail_iff]
    omega
  · refine ⟨lead, tails, hmore, ?_, htails⟩
    rw [Bool.eq_false_iff, ne_eq, isTail_iff]
    omega

/-- No byte of a character beyond ASCII is a byte of ASCII. -/
theorem le_of_mem_encodeChar {c : Char} (hc : 0x80 ≤ c.toNat) {b : UInt8}
    (hb : b ∈ String.utf8EncodeChar c) : 0x80 ≤ b.toNat := by
  rcases encodeChar_cases c with ⟨hsmall, -⟩ | ⟨_, lead, tails, hmore, hlead, htails⟩
  · omega
  · rw [hmore] at hb
    rcases List.mem_cons.mp hb with rfl | hb
    · omega
    · exact (isTail_iff.mp (htails b hb)).1

/-! ## Boundaries -/

/-- A text in front moves the boundaries. -/
theorem Boundary.append_left {as bs : Bytes} {i : Nat} (ha : IsText as) (h : Boundary bs i) :
    Boundary (as ++ bs) (as.length + i) := by
  refine ⟨?_, ?_, ?_⟩
  · have := h.le_length
    rw [List.length_append]
    omega
  · rw [List.take_length_add_append]
    exact ha.append h.before
  · rw [List.drop_length_add_append]
    exact h.after

/-- In a text, a byte that continues no character stands at a boundary. -/
theorem boundary_of_not_tail {bs : Bytes} (hbs : IsText bs) {i : Nat} {b : UInt8}
    (hb : bs[i]? = some b) (htail : isTail b = false) : Boundary bs i := by
  obtain ⟨cs, rfl⟩ := hbs
  induction cs generalizing i with
  | nil => simp at hb
  | cons c cs ih =>
    obtain ⟨lead, tails, hchar, -, htails⟩ := encodeChar_eq_cons c
    have htext : IsText (encode (c :: cs)) := ⟨c :: cs, rfl⟩
    have hfirst : IsText (String.utf8EncodeChar c) := ⟨[c], by simp [encode]⟩
    rcases Nat.lt_or_ge i (String.utf8EncodeChar c).length with hinside | hbeyond
    · -- Within the first character only its beginning is no tail.
      rw [encode_cons, List.getElem?_append_left hinside, hchar] at hb
      cases i with
      | zero => exact Boundary.zero htext
      | succ i =>
        rw [htails b (List.mem_of_getElem? hb)] at htail
        cases htail
    · obtain ⟨j, rfl⟩ := Nat.exists_eq_add_of_le hbeyond
      rw [encode_cons, List.getElem?_append_right (Nat.le_add_right _ _),
        Nat.add_sub_cancel_left] at hb
      rw [encode_cons]
      exact (ih hb).append_left hfirst

/-- Some bytes of a text that are text by themselves begin and end at boundaries. -/
theorem boundaries_of_isText_slice {bs : Bytes} (hbs : IsText bs) {s : Span}
    (hne : s.start < s.stop) (hstop : s.stop ≤ bs.length) (hslice : IsText (bs.slice s)) :
    Boundary bs s.start ∧ Boundary bs s.stop := by
  have hstart : Boundary bs s.start := by
    obtain ⟨cs, hcs⟩ := hslice
    have hlength := Bytes.length_slice hstop
    cases cs with
    | nil =>
      rw [hcs] at hlength
      simp at hlength
      omega
    | cons c cs =>
      -- The first byte of the slice begins a character, also where it stands in the text.
      obtain ⟨lead, tails, hchar, hlead, -⟩ := encodeChar_eq_cons c
      have hbyte : bs[s.start]? = some lead := by
        have hzero : (bs.slice s)[0]? = bs[s.start]? := by
          rw [Bytes.slice, List.getElem?_take_of_lt (by omega), List.getElem?_drop, Nat.add_zero]
        rw [← hzero, hcs, encode_cons, hchar]
        rfl
      exact boundary_of_not_tail hbs hbyte hlead
  refine ⟨hstart, hstop, ?_, ?_⟩
  · rw [← bs.take_append_slice (Nat.le_of_lt hne)]
    exact hstart.before.append hslice
  · have hafter := hstart.after
    rw [← bs.slice_append_drop (Nat.le_of_lt hne)] at hafter
    exact hslice.of_append_left hafter

end ArityFill.Utf8
