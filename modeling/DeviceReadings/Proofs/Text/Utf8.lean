import DeviceReadings.Text.Utf8

/-!
# Text and its bytes

The bytes of a text are read back as the text (`decodeLossy_encode`), since the machine that reads
them comes back to its start after each character (`pieces_utf8EncodeChar`). A character of the
first 128 is one byte, and no other character has such a byte, so that a reader that looks for such
bytes finds them where the text has the characters (`encode_eq_ascii_cons`).
-/

namespace DeviceReadings

namespace Utf8

@[simp] theorem encode_nil : encode [] = [] := rfl

/-- The bytes of a text are those of its first character and then those of the rest. -/
theorem encode_cons (c : Char) (t : List Char) :
    encode (c :: t) = String.utf8EncodeChar c ++ encode t := rfl

/-- The bytes of two texts in a row are their bytes in a row. Nothing between them depends on where
one text ends, which is why a text can be cut anywhere between characters. -/
@[simp] theorem encode_append (t u : List Char) : encode (t ++ u) = encode t ++ encode u :=
  List.flatMap_append

/-- A number below 256 is the value of its byte. The forms of characters are written with
`UInt8.ofNat`, and all reasoning about them happens on numbers. -/
theorem toNat_ofNat {n : Nat} (h : n < 256) : (UInt8.ofNat n).toNat = n :=
  UInt8.toNat_ofNat_of_lt' h

/-! ## The forms of a character -/

section

variable {c : Char}

/-- The numbers of characters are those that are no surrogates and not beyond the last one. -/
theorem toNat_valid (c : Char) : c.toNat < 0xD800 ∨ 0xDFFF < c.toNat ∧ c.toNat < 0x110000 :=
  c.valid

/-- A character of the first 128 is one byte, which is its number. -/
theorem utf8EncodeChar_one (h : c.toNat < 0x80) :
    String.utf8EncodeChar c = [UInt8.ofNat c.toNat] := by
  have hc : c.val.toNat ≤ 0x7f := Nat.le_of_lt_succ h
  simp only [String.utf8EncodeChar, if_pos hc]
  rfl

/-- A character up to the next bound is two bytes: five bits in the first one and six in the second,
each above the mark of its place. -/
theorem utf8EncodeChar_two (h : 0x80 ≤ c.toNat) (hlt : c.toNat < 0x800) :
    String.utf8EncodeChar c =
      [UInt8.ofNat (c.toNat / 64 + 0xC0), UInt8.ofNat (c.toNat % 64 + 0x80)] := by
  have hc : ¬ c.val.toNat ≤ 0x7f := Nat.not_le_of_lt h
  have hc' : c.val.toNat ≤ 0x7ff := Nat.le_of_lt_succ hlt
  have hbits : c.val.toNat / 64 % 0x20 = c.val.toNat / 64 := by omega
  simp only [String.utf8EncodeChar, if_neg hc, if_pos hc', hbits]
  rfl

/-- The form in three bytes, with four, six and six bits. The masks of the library function are gone
here, since the bounds on the number make them do nothing. -/
theorem utf8EncodeChar_three (h : 0x800 ≤ c.toNat) (hlt : c.toNat < 0x10000) :
    String.utf8EncodeChar c =
      [UInt8.ofNat (c.toNat / 4096 + 0xE0), UInt8.ofNat (c.toNat / 64 % 64 + 0x80),
        UInt8.ofNat (c.toNat % 64 + 0x80)] := by
  have hc : ¬ c.val.toNat ≤ 0x7f := Nat.not_le_of_lt (Nat.le_trans (by decide) h)
  have hc' : ¬ c.val.toNat ≤ 0x7ff := Nat.not_le_of_lt h
  have hc'' : c.val.toNat ≤ 0xffff := Nat.le_of_lt_succ hlt
  have hbits : c.val.toNat / 4096 % 0x10 = c.val.toNat / 4096 := by omega
  simp only [String.utf8EncodeChar, if_neg hc, if_neg hc', if_pos hc'', hbits]
  rfl

/-- The form in four bytes, with three and three times six bits. That the number is one of a
character keeps it below the fifth lead byte. -/
theorem utf8EncodeChar_four (h : 0x10000 ≤ c.toNat) :
    String.utf8EncodeChar c =
      [UInt8.ofNat (c.toNat / 262144 + 0xF0), UInt8.ofNat (c.toNat / 4096 % 64 + 0x80),
        UInt8.ofNat (c.toNat / 64 % 64 + 0x80), UInt8.ofNat (c.toNat % 64 + 0x80)] := by
  have hc : ¬ c.val.toNat ≤ 0x7f := Nat.not_le_of_lt (Nat.le_trans (by decide) h)
  have hc' : ¬ c.val.toNat ≤ 0x7ff := Nat.not_le_of_lt (Nat.le_trans (by decide) h)
  have hc'' : ¬ c.val.toNat ≤ 0xffff := Nat.not_le_of_lt h
  have hbits : c.val.toNat / 262144 % 8 = c.val.toNat / 262144 := by
    have hvalid : c.val.toNat < 0xD800 ∨ 0xDFFF < c.val.toNat ∧ c.val.toNat < 0x110000 := c.valid
    omega
  simp only [String.utf8EncodeChar, if_neg hc, if_neg hc', if_neg hc'', hbits]
  rfl

/-- A character behind the first 128 has only bytes behind the first 128. So a byte below that is
never part of a longer character. -/
theorem high_of_mem_utf8EncodeChar (h : 0x80 ≤ c.toNat) {b : UInt8}
    (hb : b ∈ String.utf8EncodeChar c) : 0x80 ≤ b.toNat := by
  have hhigh : ∀ n k : Nat, n + k < 256 → 0x80 ≤ k → b = UInt8.ofNat (n + k) → 0x80 ≤ b.toNat := by
    rintro n k hlt hk rfl
    rw [toNat_ofNat hlt]
    omega
  have hvalid := toNat_valid c
  rcases Nat.lt_or_ge c.toNat 0x800 with hlt | hge
  · rw [utf8EncodeChar_two h hlt, List.mem_cons, List.mem_singleton] at hb
    rcases hb with hb | hb
    · exact hhigh _ _ (by omega) (by omega) hb
    · exact hhigh _ _ (by omega) (by omega) hb
  rcases Nat.lt_or_ge c.toNat 0x10000 with hlt | hge'
  · rw [utf8EncodeChar_three hge hlt, List.mem_cons, List.mem_cons, List.mem_singleton] at hb
    rcases hb with hb | hb | hb
    · exact hhigh _ _ (by omega) (by omega) hb
    · exact hhigh _ _ (by omega) (by omega) hb
    · exact hhigh _ _ (by omega) (by omega) hb
  · rw [utf8EncodeChar_four hge', List.mem_cons, List.mem_cons, List.mem_cons,
      List.mem_singleton] at hb
    rcases hb with hb | hb | hb | hb
    · exact hhigh _ _ (by omega) (by omega) hb
    · exact hhigh _ _ (by omega) (by omega) hb
    · exact hhigh _ _ (by omega) (by omega) hb
    · exact hhigh _ _ (by omega) (by omega) hb

end

/-! ## Characters of one byte -/

/-- A text that begins with a character of the first 128 has the number of this character as its
first byte. -/
theorem encode_ascii_cons {c : Char} (h : c.toNat < 0x80) (t : List Char) :
    encode (c :: t) = UInt8.ofNat c.toNat :: encode t := by
  rw [encode_cons, utf8EncodeChar_one h]
  rfl

/-- Characters of the first 128 have different bytes, so that comparing bytes is comparing such
characters. -/
theorem eq_of_ofNat_toNat_eq {c d : Char} (hc : c.toNat < 0x80) (hd : d.toNat < 0x80)
    (h : UInt8.ofNat c.toNat = UInt8.ofNat d.toNat) : c = d := by
  have htoNat := congrArg UInt8.toNat h
  rw [toNat_ofNat (by omega), toNat_ofNat (by omega)] at htoNat
  exact Char.ext (UInt32.toNat_inj.1 htoNat)

/-- The bytes of a text begin with the byte of a character of the first 128, or with a byte beyond
those. -/
theorem encode_cons_cases (c : Char) (t : List Char) :
    c.toNat < 0x80 ∧ encode (c :: t) = UInt8.ofNat c.toNat :: encode t ∨
      0x80 ≤ c.toNat ∧ ∃ b s, encode (c :: t) = b :: s ∧ 0x80 ≤ b.toNat := by
  rcases Nat.lt_or_ge c.toNat 0x80 with hlt | hge
  · exact .inl ⟨hlt, encode_ascii_cons hlt t⟩
  · cases hbytes : String.utf8EncodeChar c with
    | nil => exact absurd hbytes String.utf8EncodeChar_ne_nil
    | cons b s =>
      refine .inr ⟨hge, b, s ++ encode t, ?_, ?_⟩
      · rw [encode_cons, hbytes, List.cons_append]
      · exact high_of_mem_utf8EncodeChar hge (hbytes ▸ List.mem_cons_self)

/-- A byte of the first 128 at the front of the bytes of a text is a character, and the bytes behind
it are those of the rest of the text. -/
theorem encode_eq_low_cons {t : List Char} {b : UInt8} {s : List UInt8} (hb : b.toNat < 0x80)
    (h : encode t = b :: s) : ∃ m, t = Char.ofNat b.toNat :: m ∧ s = encode m := by
  cases t with
  | nil => cases h
  | cons c m =>
    rcases encode_cons_cases c m with ⟨hlow, hc⟩ | ⟨-, b', s', hc, hhigh⟩
    · obtain ⟨rfl, rfl⟩ := List.cons.inj (hc.symm.trans h)
      rw [toNat_ofNat (by omega), Char.ofNat_toNat]
      exact ⟨m, rfl, rfl⟩
    · obtain ⟨rfl, -⟩ := List.cons.inj (hc.symm.trans h)
      omega

/-- A text begins with a character of the first 128 just if its bytes begin with the byte of it.
Readers that look for such bytes are proved right by this equivalence. -/
theorem encode_eq_ascii_cons {c : Char} (hc : c.toNat < 0x80) {t : List Char} {s : List UInt8} :
    encode t = UInt8.ofNat c.toNat :: s ↔ ∃ m, t = c :: m ∧ s = encode m := by
  refine ⟨fun h => ?_, ?_⟩
  · have hbyte : (UInt8.ofNat c.toNat).toNat = c.toNat := toNat_ofNat (by omega)
    have hlow := encode_eq_low_cons (by rwa [hbyte]) h
    rwa [hbyte, Char.ofNat_toNat] at hlow
  · rintro ⟨m, rfl, rfl⟩
    exact encode_ascii_cons hc m

/-! ## Reading back -/

/-- A byte in the midst of a character, with its bits: six of them above the mark of such bytes. -/
theorem toNat_tail {n : Nat} (h : n < 64) : (UInt8.ofNat (n + 0x80)).toNat = n + 0x80 :=
  toNat_ofNat (by omega)

/-- The last byte of a character completes it. The bounds are those that the bytes before it have
set. -/
theorem pieces_last {low high bits n : Nat} (hn : n < 64) (hlow : low ≤ n + 0x80)
    (hhigh : n + 0x80 ≤ high) (s : List UInt8) :
    pieces (some ⟨0, low, high, bits⟩) (UInt8.ofNat (n + 0x80) :: s) =
      some (Char.ofNat (bits * 64 + n)) :: pieces none s := by
  have hbits : (UInt8.ofNat (n + 0x80)).toNat - 0x80 = n := by
    rw [toNat_tail hn]
    omega
  rw [← toNat_tail hn] at hlow hhigh
  generalize UInt8.ofNat (n + 0x80) = b at *
  subst hbits
  rw [pieces, if_pos ⟨hlow, hhigh⟩]
  rfl

/-- Another byte of a character adds its bits. The bounds of its first later byte no longer hold
behind it, and the plain ones take their place. -/
theorem pieces_more {later low high bits n : Nat} (hn : n < 64) (hlow : low ≤ n + 0x80)
    (hhigh : n + 0x80 ≤ high) (s : List UInt8) :
    pieces (some ⟨later + 1, low, high, bits⟩) (UInt8.ofNat (n + 0x80) :: s) =
      pieces (some ⟨later, 0x80, 0xBF, bits * 64 + n⟩) s := by
  have hbits : (UInt8.ofNat (n + 0x80)).toNat - 0x80 = n := by
    rw [toNat_tail hn]
    omega
  rw [← toNat_tail hn] at hlow hhigh
  generalize UInt8.ofNat (n + 0x80) = b at *
  subst hbits
  rw [pieces, if_pos ⟨hlow, hhigh⟩]
  rfl

/-- A byte that begins a character of several bytes is not shown yet; the machine waits for the
others. -/
theorem pieces_lead {b : UInt8} {w : Waiting} (h : start b = .lead w) (s : List UInt8) :
    pieces none (b :: s) = pieces (some w) s := by
  simp only [pieces, h]

/-- A first byte of two begins a character if it has more than one bit. The two that have less could
only begin forms longer than needed. -/
theorem start_two {n : Nat} (h : 2 ≤ n) (hlt : n < 32) :
    start (UInt8.ofNat (n + 0xC0)) = .lead ⟨0, 0x80, 0xBF, n⟩ := by
  have hbyte : (UInt8.ofNat (n + 0xC0)).toNat = n + 0xC0 := toNat_ofNat (by omega)
  simp only [start, hbyte]
  rw [if_neg (by omega), if_neg (by omega), if_pos (by omega), Nat.add_sub_cancel]

/-- The second byte of three is bounded so that the character is neither below those of three bytes
nor a surrogate. -/
theorem start_three {n : Nat} (hlt : n < 16) :
    start (UInt8.ofNat (n + 0xE0)) =
      .lead ⟨1, if n = 0 then 0xA0 else 0x80, if n = 13 then 0x9F else 0xBF, n⟩ := by
  have hbyte : (UInt8.ofNat (n + 0xE0)).toNat = n + 0xE0 := toNat_ofNat (by omega)
  simp only [start, hbyte]
  rw [if_neg (by omega), if_neg (by omega), if_neg (by omega), Nat.add_sub_cancel]
  by_cases hzero : n = 0
  · subst hzero
    rfl
  by_cases hthirteen : n = 13
  · subst hthirteen
    rfl
  · rw [if_neg (by omega), if_neg (by omega), if_pos (by omega), if_neg hzero, if_neg hthirteen]

/-- The second byte of four is bounded so that the character is neither below those of four bytes
nor beyond the last one. -/
theorem start_four {n : Nat} (hlt : n < 5) :
    start (UInt8.ofNat (n + 0xF0)) =
      .lead ⟨2, if n = 0 then 0x90 else 0x80, if n = 4 then 0x8F else 0xBF, n⟩ := by
  have hbyte : (UInt8.ofNat (n + 0xF0)).toNat = n + 0xF0 := toNat_ofNat (by omega)
  simp only [start, hbyte]
  rw [if_neg (by omega), if_neg (by omega), if_neg (by omega), if_neg (by omega),
    if_neg (by omega), if_neg (by omega), Nat.add_sub_cancel]
  by_cases hzero : n = 0
  · subst hzero
    rfl
  by_cases hfour : n = 4
  · subst hfour
    rfl
  · rw [if_neg (by omega), if_pos (by omega), if_neg hzero, if_neg hfour]

/-- After the bytes of a character the machine has read it and is back at its start, whatever
follows. The cases are the four forms, and each byte is one step. -/
theorem pieces_utf8EncodeChar (c : Char) (s : List UInt8) :
    pieces none (String.utf8EncodeChar c ++ s) = some c :: pieces none s := by
  have hvalid := toNat_valid c
  have hread : ∀ n, n = c.toNat →
      some (Char.ofNat n) :: pieces none s = some c :: pieces none s := by
    rintro n rfl
    rw [Char.ofNat_toNat]
  rcases Nat.lt_or_ge c.toNat 0x80 with hlt | hge
  · have hbyte : (UInt8.ofNat c.toNat).toNat = c.toNat := toNat_ofNat (by omega)
    rw [utf8EncodeChar_one hlt, List.singleton_append, pieces]
    simp only [start, hbyte, if_pos hlt]
    exact hread _ rfl
  rcases Nat.lt_or_ge c.toNat 0x800 with hlt | hge'
  · rw [utf8EncodeChar_two hge hlt, List.cons_append, List.singleton_append,
      pieces_lead (start_two (by omega) (by omega)),
      pieces_last (by omega) (by omega) (by omega)]
    exact hread _ (by omega)
  rcases Nat.lt_or_ge c.toNat 0x10000 with hlt | hge''
  · rw [utf8EncodeChar_three hge' hlt, List.cons_append, List.cons_append, List.singleton_append,
      pieces_lead (start_three (by omega)),
      pieces_more (by omega) (by split <;> omega) (by split <;> omega),
      pieces_last (by omega) (by omega) (by omega)]
    exact hread _ (by omega)
  · rw [utf8EncodeChar_four hge'', List.cons_append, List.cons_append, List.cons_append,
      List.singleton_append, pieces_lead (start_four (by omega)),
      pieces_more (by omega) (by split <;> omega) (by split <;> omega),
      pieces_more (by omega) (by omega) (by omega),
      pieces_last (by omega) (by omega) (by omega)]
    exact hread _ (by omega)

/-- After the form of a text the machine is back at its start, with one piece for each character.
Malformed bytes behind a text are found in this way. -/
theorem pieces_encode_append (t : List Char) (rest : List UInt8) :
    pieces none (encode t ++ rest) = t.map some ++ pieces none rest := by
  induction t with
  | nil => rfl
  | cons c t ih =>
    rw [encode_cons, List.append_assoc, pieces_utf8EncodeChar, ih, List.map_cons, List.cons_append]

/-- The form of a text has no piece that is not a character. -/
theorem pieces_encode (t : List Char) : pieces none (encode t) = t.map some := by
  have hpieces := pieces_encode_append t []
  rwa [pieces, List.append_nil, List.append_nil] at hpieces

/-- **The bytes of a text are read back as the text,** and no replacement character stands in it
unless the text itself has one. -/
theorem decodeLossy_encode (t : List Char) : decodeLossy (encode t) = t := by
  rw [decodeLossy, pieces_encode, List.map_map]
  exact List.map_id t

end Utf8

end DeviceReadings
