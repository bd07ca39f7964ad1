import ArityFill.Proofs.Source.Slice
import Mathlib.Data.List.Basic

/-! # The two directions of UTF-8

    Encoding and decoding are inverse to each other: a byte string is well-formed exactly when it is
    the encoding of some text, and that text is what the decoder answers. The key step is
    `decode_encodeChar_append`, which reads one character off the front of a byte string and leaves
    the rest to the next step.

    `Boundary` says where a text may be cut without cutting through a character. Between two such
    places stands a well-formed piece.
-/

namespace ArityFill.Utf8

/-! ## Reading back one character -/

/-- The value of a byte that is given by a small number. -/
theorem toNat_ofNat_small {n : Nat} (h : n < 256) : (UInt8.ofNat n).toNat = n := by
  simp [Nat.mod_eq_of_lt h]

/-- The two bytes of a character from U+0080 to U+07FF form it again. -/
theorem pair_bytes {v : Nat} (hlo : 0x7f < v) (hhi : v ≤ 0x7ff) :
    pair (UInt8.ofNat (v / 64 % 32 + 0xc0)) (UInt8.ofNat (v % 64 + 0x80)) =
      some (Char.ofNat v) := by
  have ha := toNat_ofNat_small (n := v / 64 % 32 + 0xc0) (by omega)
  have hb := toNat_ofNat_small (n := v % 64 + 0x80) (by omega)
  have hv : (v / 64 % 32 + 0xc0) % 32 * 64 + (v % 64 + 0x80) % 64 = v := by omega
  simp only [pair, isTail, tailBits, ha, hb, hv, decide_eq_true_eq]
  rw [if_pos (by omega)]

/-- The three bytes of a character from U+0800 to U+FFFF form it again. Surrogates are no
    characters, so the decoder loses nothing by refusing them. -/
theorem triple_bytes {v : Nat} (hlo : 0x7ff < v) (hhi : v ≤ 0xffff)
    (hsur : ¬(0xD800 ≤ v ∧ v ≤ 0xDFFF)) :
    triple (UInt8.ofNat (v / 4096 % 16 + 0xe0)) (UInt8.ofNat (v / 64 % 64 + 0x80))
      (UInt8.ofNat (v % 64 + 0x80)) = some (Char.ofNat v) := by
  have ha := toNat_ofNat_small (n := v / 4096 % 16 + 0xe0) (by omega)
  have hb := toNat_ofNat_small (n := v / 64 % 64 + 0x80) (by omega)
  have hc := toNat_ofNat_small (n := v % 64 + 0x80) (by omega)
  have hv : (v / 4096 % 16 + 0xe0) % 16 * 4096 + (v / 64 % 64 + 0x80) % 64 * 64 +
      (v % 64 + 0x80) % 64 = v := by omega
  simp only [triple, isTail, tailBits, ha, hb, hc, hv, decide_eq_true_eq]
  rw [if_pos (by omega)]

/-- The four bytes of a character from U+10000 on form it again. -/
theorem quadruple_bytes {v : Nat} (hlo : 0xffff < v) (hhi : v ≤ 0x10FFFF) :
    quadruple (UInt8.ofNat (v / 262144 % 8 + 0xf0)) (UInt8.ofNat (v / 4096 % 64 + 0x80))
      (UInt8.ofNat (v / 64 % 64 + 0x80)) (UInt8.ofNat (v % 64 + 0x80)) = some (Char.ofNat v) := by
  have ha := toNat_ofNat_small (n := v / 262144 % 8 + 0xf0) (by omega)
  have hb := toNat_ofNat_small (n := v / 4096 % 64 + 0x80) (by omega)
  have hc := toNat_ofNat_small (n := v / 64 % 64 + 0x80) (by omega)
  have hd := toNat_ofNat_small (n := v % 64 + 0x80) (by omega)
  have hv : (v / 262144 % 8 + 0xf0) % 8 * 262144 + (v / 4096 % 64 + 0x80) % 64 * 4096 +
      (v / 64 % 64 + 0x80) % 64 * 64 + (v % 64 + 0x80) % 64 = v := by omega
  simp only [quadruple, isTail, tailBits, ha, hb, hc, hd, hv, decide_eq_true_eq]
  rw [if_pos (by omega)]

/-- Decoding reads one encoded character off the front. -/
theorem decode_encodeChar_append (c : Char) (rest : Bytes) :
    decode (String.utf8EncodeChar c ++ rest) = (decode rest).map (c :: ·) := by
  have hc : Char.ofNat c.val.toNat = c := Char.ofNat_toNat c
  have hvalid : c.val.toNat < 0xD800 ∨ (0xDFFF < c.val.toNat ∧ c.val.toNat < 0x110000) := c.valid
  unfold String.utf8EncodeChar
  dsimp only
  -- The length of the encoding is the one that the decoder takes from the lead byte.
  split
  · next h1 =>
    have ha := toNat_ofNat_small (n := c.val.toNat) (by omega)
    rw [List.singleton_append, decode.eq_def]
    dsimp only
    rw [if_pos (by omega), ha, hc]
  · next h1 =>
    split
    · next h2 =>
      have ha := toNat_ofNat_small (n := c.val.toNat / 64 % 32 + 0xc0) (by omega)
      rw [List.cons_append, List.cons_append, List.nil_append, decode.eq_def]
      dsimp only
      rw [if_neg (by omega), if_pos (by omega), pair_bytes (by omega) (by omega), hc]
    · next h2 =>
      split
      · next h3 =>
        have ha := toNat_ofNat_small (n := c.val.toNat / 4096 % 16 + 0xe0) (by omega)
        rw [List.cons_append, List.cons_append, List.cons_append, List.nil_append, decode.eq_def]
        dsimp only
        rw [if_neg (by omega), if_neg (by omega), if_pos (by omega),
          triple_bytes (by omega) (by omega) (by omega), hc]
      · next h3 =>
        have ha := toNat_ofNat_small (n := c.val.toNat / 262144 % 8 + 0xf0) (by omega)
        rw [List.cons_append, List.cons_append, List.cons_append, List.cons_append,
          List.nil_append, decode.eq_def]
        dsimp only
        rw [if_neg (by omega), if_neg (by omega), if_neg (by omega),
          quadruple_bytes (by omega) (by omega), hc]

/-! ## Writing back one character -/

/-- The code point of a character that is given by a valid number. -/
theorem val_ofNat {n : Nat} (h : n.isValidChar) : (Char.ofNat n).val.toNat = n := by
  rw [Char.ofNat, dif_pos h]
  rfl

/-- A byte is known by its value. -/
theorem ofNat_eq_of_toNat_eq {a : UInt8} {n : Nat} (h : n = a.toNat) : UInt8.ofNat n = a := by
  rw [h, UInt8.ofNat_toNat]

theorem encodeChar_of_ascii {a : UInt8} (h : a.toNat < 0x80) :
    String.utf8EncodeChar (Char.ofNat a.toNat) = [a] := by
  have hv := val_ofNat (n := a.toNat) (Or.inl (by omega))
  unfold String.utf8EncodeChar
  dsimp only
  rw [hv, if_pos (by omega), UInt8.ofNat_toNat]

/-- Two bytes that form a character are its encoding. -/
theorem encodeChar_of_pair {a b : UInt8} {c : Char} (h : pair a b = some c) :
    String.utf8EncodeChar c = [a, b] := by
  simp only [pair, isTail, tailBits, decide_eq_true_eq, Option.ite_none_right_eq_some,
    Option.some.injEq] at h
  obtain ⟨⟨hlead, htail, hlow⟩, rfl⟩ := h
  have hv := val_ofNat (n := a.toNat % 32 * 64 + b.toNat % 64) (Or.inl (by omega))
  unfold String.utf8EncodeChar
  dsimp only
  rw [hv, if_neg (by omega), if_pos (by omega)]
  rw [ofNat_eq_of_toNat_eq (a := a) (by omega), ofNat_eq_of_toNat_eq (a := b) (by omega)]

/-- Three bytes that form a character are its encoding. -/
theorem encodeChar_of_triple {a b c : UInt8} {d : Char} (h : triple a b c = some d) :
    String.utf8EncodeChar d = [a, b, c] := by
  simp only [triple, isTail, tailBits, decide_eq_true_eq, Option.ite_none_right_eq_some,
    Option.some.injEq] at h
  obtain ⟨⟨hlead, htail, htail', hlow, hsur⟩, rfl⟩ := h
  have hv := val_ofNat (n := a.toNat % 16 * 4096 + b.toNat % 64 * 64 + c.toNat % 64)
    (by unfold Nat.isValidChar; omega)
  unfold String.utf8EncodeChar
  dsimp only
  rw [hv, if_neg (by omega), if_neg (by omega), if_pos (by omega)]
  rw [ofNat_eq_of_toNat_eq (a := a) (by omega), ofNat_eq_of_toNat_eq (a := b) (by omega),
    ofNat_eq_of_toNat_eq (a := c) (by omega)]

/-- Four bytes that form a character are its encoding. -/
theorem encodeChar_of_quadruple {a b c d : UInt8} {e : Char} (h : quadruple a b c d = some e) :
    String.utf8EncodeChar e = [a, b, c, d] := by
  unfold quadruple at h
  dsimp only at h
  rw [Option.ite_none_right_eq_some, Option.some.injEq] at h
  simp only [isTail, tailBits, decide_eq_true_eq] at h
  obtain ⟨⟨hlead, htail, htail', htail'', hlow, hhigh⟩, rfl⟩ := h
  have hv := val_ofNat
    (n := a.toNat % 8 * 262144 + b.toNat % 64 * 4096 + c.toNat % 64 * 64 + d.toNat % 64)
    (by unfold Nat.isValidChar; omega)
  unfold String.utf8EncodeChar
  dsimp only
  rw [hv, if_neg (by omega), if_neg (by omega), if_neg (by omega)]
  rw [ofNat_eq_of_toNat_eq (a := a) (by omega), ofNat_eq_of_toNat_eq (a := b) (by omega),
    ofNat_eq_of_toNat_eq (a := c) (by omega), ofNat_eq_of_toNat_eq (a := d) (by omega)]

/-! ## Whole texts -/

theorem encode_cons (c : Char) (cs : List Char) :
    encode (c :: cs) = String.utf8EncodeChar c ++ encode cs := by
  simp [encode]

@[simp] theorem encode_nil : encode [] = [] := rfl

@[simp] theorem encode_append (as bs : List Char) : encode (as ++ bs) = encode as ++ encode bs := by
  simp [encode]

/-- Decoding gives back the text that was encoded. -/
theorem decode_encode (cs : List Char) : decode (encode cs) = some cs := by
  induction cs with
  | nil => simp [decode]
  | cons c cs ih => rw [encode_cons, decode_encodeChar_append, ih, Option.map_some]

/-- A text that was decoded has the decoded bytes as its encoding. -/
theorem encode_of_decode {bs : Bytes} {cs : List Char} (h : decode bs = some cs) :
    encode cs = bs := by
  fun_induction decode bs generalizing cs with
  | case1 => simp_all
  | case2 a rest hlt ih =>
    obtain ⟨ds, hds, rfl⟩ := Option.map_eq_some_iff.mp h
    rw [encode_cons, encodeChar_of_ascii hlt, ih hds, List.singleton_append]
  | case3 => cases h
  | case4 a hge b rest hlt c hc ih =>
    obtain ⟨ds, hds, rfl⟩ := Option.map_eq_some_iff.mp h
    rw [encode_cons, encodeChar_of_pair hc, ih hds]
    rfl
  | case5 => cases h
  | case6 => cases h
  | case7 a hge b hge' c rest hlt d hd ih =>
    obtain ⟨ds, hds, rfl⟩ := Option.map_eq_some_iff.mp h
    rw [encode_cons, encodeChar_of_triple hd, ih hds]
    rfl
  | case8 => cases h
  | case9 => cases h
  | case10 a hge b hge' c hge'' d rest e he ih =>
    obtain ⟨ds, hds, rfl⟩ := Option.map_eq_some_iff.mp h
    rw [encode_cons, encodeChar_of_quadruple he, ih hds]
    rfl
  | case11 => cases h

/-- A byte string spells a text exactly when it is the encoding of that text. -/
theorem decode_eq_some_iff {bs : Bytes} {cs : List Char} :
    decode bs = some cs ↔ bs = encode cs := by
  constructor
  · intro h
    exact (encode_of_decode h).symm
  · rintro rfl
    exact decode_encode cs

theorem toString?_eq_some_iff {bs : Bytes} {s : String} :
    toString? bs = some s ↔ bs = ofString s := by
  unfold toString? ofString
  rw [Option.map_eq_some_iff]
  constructor
  · rintro ⟨cs, hcs, rfl⟩
    rw [String.toList_ofList]
    exact decode_eq_some_iff.mp hcs
  · intro h
    exact ⟨s.toList, decode_eq_some_iff.mpr h, String.ofList_toList⟩

@[simp] theorem toString?_ofString (s : String) : toString? (ofString s) = some s :=
  toString?_eq_some_iff.mpr rfl

@[simp] theorem ofString_append (s t : String) : ofString (s ++ t) = ofString s ++ ofString t := by
  simp [ofString]

/-! ## Cutting a text

    A byte string is text if it is the encoding of one. Text can be put together, and what is left
    when text is taken off the front of text is text again. -/

/-- Whether a byte string is the encoding of some text. -/
def IsText (bs : Bytes) : Prop :=
  ∃ cs, bs = encode cs

theorem isText_iff_decode {bs : Bytes} : IsText bs ↔ (decode bs).isSome := by
  rw [Option.isSome_iff_exists]
  exact exists_congr fun cs => decode_eq_some_iff.symm

instance (bs : Bytes) : Decidable (IsText bs) :=
  decidable_of_iff _ isText_iff_decode.symm

theorem isText_iff_toString? {bs : Bytes} : IsText bs ↔ ∃ s, toString? bs = some s := by
  constructor
  · rintro ⟨cs, rfl⟩
    exact ⟨String.ofList cs, by simp [toString?, decode_encode]⟩
  · rintro ⟨s, hs⟩
    exact ⟨s.toList, toString?_eq_some_iff.mp hs⟩

theorem isText_ofString (s : String) : IsText (ofString s) :=
  ⟨s.toList, rfl⟩

theorem IsText.append {as bs : Bytes} (ha : IsText as) (hb : IsText bs) : IsText (as ++ bs) := by
  obtain ⟨cs, rfl⟩ := ha
  obtain ⟨ds, rfl⟩ := hb
  exact ⟨cs ++ ds, (encode_append cs ds).symm⟩

theorem decode_encode_append (cs : List Char) (bs : Bytes) :
    decode (encode cs ++ bs) = (decode bs).map (cs ++ ·) := by
  induction cs with
  | nil => simp
  | cons c cs ih =>
    rw [encode_cons, List.append_assoc, decode_encodeChar_append, ih, Option.map_map]
    rfl

theorem IsText.of_append_left {as bs : Bytes} (ha : IsText as) (h : IsText (as ++ bs)) :
    IsText bs := by
  obtain ⟨cs, rfl⟩ := ha
  rw [isText_iff_decode, decode_encode_append, Option.isSome_map] at h
  exact isText_iff_decode.mpr h

/-- Whether an offset lies between two characters of a text, or at one of its ends. -/
structure Boundary (bs : Bytes) (i : Nat) : Prop where
  /-- The offset lies in the text. -/
  le_length : i ≤ bs.length
  /-- What stands before it is text. -/
  before : IsText (bs.take i)
  /-- What stands after it is text. -/
  after : IsText (bs.drop i)

instance (bs : Bytes) (i : Nat) : Decidable (Boundary bs i) :=
  decidable_of_iff (i ≤ bs.length ∧ IsText (bs.take i) ∧ IsText (bs.drop i))
    ⟨fun ⟨h, h', h''⟩ => ⟨h, h', h''⟩, fun ⟨h, h', h''⟩ => ⟨h, h', h''⟩⟩

/-- The beginning of a text is a boundary. -/
theorem Boundary.zero {bs : Bytes} (h : IsText bs) : Boundary bs 0 :=
  ⟨Nat.zero_le _, ⟨[], by simp⟩, by simpa using h⟩

/-- Between two boundaries stands text. -/
theorem Boundary.isText_slice {bs : Bytes} {i j : Nat} (hi : Boundary bs i) (hj : Boundary bs j)
    (h : i ≤ j) : IsText (bs.slice ⟨i, j⟩) := by
  have hbefore := hj.before
  rw [← bs.take_append_slice h] at hbefore
  exact hi.before.of_append_left hbefore

end ArityFill.Utf8
