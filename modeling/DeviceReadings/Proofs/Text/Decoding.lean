import Mathlib.Algebra.Ring.Nat
import DeviceReadings.Proofs.Text.Utf8

/-!
# Which bytes are texts

Bytes are the form of a text, or they go wrong somewhere: behind the form of a text something stands
at whose front there is no character (`exists_text_append`). What that can be has a name
(`Malformed`): a byte that begins nothing, a number that is cut off, one in more bytes than it
needs, a surrogate, or a number beyond the last character.

The machine that reads bytes refuses all of these, wherever they stand, and it reads the form of a
text as the text. So it reads exactly the forms of texts (`decode?_eq_some_iff`).
-/

namespace DeviceReadings

namespace Utf8

/-! ## Numbers in several bytes -/

/-- A byte from the midst of a character. -/
def Inside (b : UInt8) : Prop :=
  0x80 ≤ b.toNat ∧ b.toNat < 0xC0

/-- The last `k` bytes of a number in several bytes, with six bits each. -/
def tailBytes : Nat → Nat → List UInt8
  | 0, _ => []
  | k + 1, n => UInt8.ofNat (n / 64 ^ k % 64 + 0x80) :: tailBytes k n

/-- The number whose first bits are given, and whose other bits are in some bytes. -/
def joined (bits : Nat) (tail : List UInt8) : Nat :=
  tail.foldl (fun n b => n * 64 + (b.toNat - 0x80)) bits

/-- A form of a number in several bytes, by how many there are. -/
inductive Form where
  | two
  | three
  | four

namespace Form

/-- How many bytes there are behind the first one. -/
def later : Form → Nat
  | two => 1
  | three => 2
  | four => 3

/-- The first byte of zero. -/
def lead : Form → Nat
  | two => 0xC0
  | three => 0xE0
  | four => 0xF0

/-- How many first bytes there are. -/
def span : Form → Nat
  | two => 0x20
  | three => 0x10
  | four => 0x08

/-- The least number that does not fit into fewer bytes. -/
def least : Form → Nat
  | two => 0x80
  | three => 0x800
  | four => 0x10000

/-- How many numbers there are in a form. -/
def size (form : Form) : Nat :=
  form.span * 64 ^ form.later

/-- The bytes of a number in a form. -/
def bytes (form : Form) (n : Nat) : List UInt8 :=
  UInt8.ofNat (n / 64 ^ form.later + form.lead) :: tailBytes form.later n

end Form

/-- Bytes at whose front there is no character. -/
inductive Malformed : List UInt8 → Prop
  /-- A byte from the midst of a character, or one that no form begins with. -/
  | stray {b : UInt8} (h : Inside b ∨ 0xF8 ≤ b.toNat) (rest : List UInt8) : Malformed (b :: rest)
  /-- A number that is cut off, by the end or by a byte that begins something else. -/
  | truncated {form : Form} {n : Nat} (hn : n < form.size) {front back rest : List UInt8}
      (h : form.bytes n = front ++ back) (hfront : front ≠ []) (hback : back ≠ [])
      (hrest : ∀ b ∈ rest.head?, ¬ Inside b) : Malformed (front ++ rest)
  /-- A number in more bytes than it needs. -/
  | overlong {form : Form} {n : Nat} (h : n < form.least) (rest : List UInt8) :
      Malformed (form.bytes n ++ rest)
  | surrogate {n : Nat} (h : 0xD800 ≤ n) (h' : n ≤ 0xDFFF) (rest : List UInt8) :
      Malformed (Form.three.bytes n ++ rest)
  /-- A number beyond the last character. -/
  | beyond {n : Nat} (h : 0x110000 ≤ n) (h' : n < Form.four.size) (rest : List UInt8) :
      Malformed (Form.four.bytes n ++ rest)

/-! ## Every number in several bytes is a character or malformed -/

/-- The character of a number has this number, if there is a character of it. -/
theorem toNat_charOfNat {n : Nat} (h : n.isValidChar) : (Char.ofNat n).toNat = n := by
  rw [Char.ofNat, dif_pos h]
  rfl

/-- There are as many bytes behind the first one as the form says. -/
theorem length_tailBytes (k n : Nat) : (tailBytes k n).length = k := by
  induction k with
  | zero => rfl
  | succ k ih => rw [tailBytes, List.length_cons, ih]

/-- Bytes from the midst of a character are the last ones of the number that they join to, and what
was joined before them is this number without their bits. The induction goes from the first of these
bytes on and keeps the bits before it in the accumulator. -/
theorem tailBytes_joined {tail : List UInt8} (h : ∀ b ∈ tail, Inside b) (bits : Nat) :
    tailBytes tail.length (joined bits tail) = tail ∧
      joined bits tail / 64 ^ tail.length = bits := by
  induction tail generalizing bits with
  | nil => exact ⟨rfl, Nat.div_one bits⟩
  | cons b tail ih =>
    obtain ⟨hlow, hhigh⟩ : 0x80 ≤ b.toNat ∧ b.toNat < 0xC0 := h b List.mem_cons_self
    obtain ⟨htail, hbits⟩ := ih (fun x hx => h x (List.mem_cons_of_mem b hx))
      (bits * 64 + (b.toNat - 0x80))
    have hjoined : joined bits (b :: tail) = joined (bits * 64 + (b.toNat - 0x80)) tail :=
      List.foldl_cons ..
    have hbyte : (bits * 64 + (b.toNat - 0x80)) % 64 + 0x80 = b.toNat := by omega
    constructor
    · rw [List.length_cons, tailBytes, hjoined, htail, hbits, hbyte, UInt8.ofNat_toNat]
    · rw [List.length_cons, Nat.pow_succ, ← Nat.div_div_eq_div_mul, hjoined, hbits]
      omega

/-- A first byte with bytes from the midst of a character behind it is a number in its form. The
number may still be a bad one: too small for the form, a surrogate, or beyond the last. -/
theorem Form.bytes_joined (form : Form) {b : UInt8} {tail : List UInt8}
    (hlead : form.lead ≤ b.toNat) (hspan : b.toNat < form.lead + form.span)
    (hlength : tail.length = form.later) (htail : ∀ x ∈ tail, Inside x) :
    form.bytes (joined (b.toNat - form.lead) tail) = b :: tail ∧
      joined (b.toNat - form.lead) tail < form.size := by
  obtain ⟨hbytes, hbits⟩ := tailBytes_joined htail (b.toNat - form.lead)
  rw [hlength] at hbytes hbits
  constructor
  · rw [bytes, hbytes, hbits, Nat.sub_add_cancel hlead, UInt8.ofNat_toNat]
  · rw [size, ← Nat.div_lt_iff_lt_mul (Nat.pow_pos (by decide)), hbits]
    omega

/-- A number in the form that it needs is a character, if there is one of it. Here the forms of this
module meet those of the library. -/
theorem Form.bytes_eq_utf8EncodeChar (form : Form) {n : Nat} (hleast : form.least ≤ n)
    (hsize : n < form.size) (hvalid : n.isValidChar) :
    form.bytes n = String.utf8EncodeChar (Char.ofNat n) := by
  have hn : (Char.ofNat n).toNat = n := toNat_charOfNat hvalid
  cases form with
  | two =>
    simp only [least, size, span, later] at hleast hsize
    rw [utf8EncodeChar_two (by omega) (by omega), hn]
    simp [bytes, tailBytes, later, lead]
  | three =>
    simp only [least, size, span, later] at hleast hsize
    rw [utf8EncodeChar_three (by omega) (by omega), hn]
    simp [bytes, tailBytes, later, lead]
  | four =>
    simp only [least, size, span, later] at hleast hsize
    rw [utf8EncodeChar_four (by omega), hn]
    simp [bytes, tailBytes, later, lead]

/-- A number in several bytes is a character, or what it stands in front of is malformed. A bad
number is so in one of the three ways in which complete forms can be malformed. -/
theorem Form.bytes_cases (form : Form) {n : Nat} (h : n < form.size) (rest : List UInt8) :
    (∃ c, form.bytes n = String.utf8EncodeChar c) ∨ Malformed (form.bytes n ++ rest) := by
  rcases Nat.lt_or_ge n form.least with hshort | hleast
  · exact .inr (.overlong hshort rest)
  by_cases hvalid : n.isValidChar
  · exact .inl ⟨_, form.bytes_eq_utf8EncodeChar hleast h hvalid⟩
  have hnumber : 0xD800 ≤ n ∧ n ≤ 0xDFFF ∨ 0x110000 ≤ n := by
    unfold Nat.isValidChar at hvalid
    omega
  right
  cases form with
  | two =>
    simp only [size, span, later] at h
    omega
  | three =>
    simp only [size, span, later] at h
    exact .surrogate (by omega) (by omega) rest
  | four =>
    simp only [least] at hleast
    exact .beyond (by omega) h rest

/-- Bytes begin with so many from the midst of a character, or with fewer and then another one or
none. The second case is a form that is cut off. -/
theorem exists_inside_append (k : Nat) (bytes : List UInt8) :
    ∃ tail rest, bytes = tail ++ rest ∧ (∀ b ∈ tail, Inside b) ∧
      (tail.length = k ∨ tail.length < k ∧ ∀ b ∈ rest.head?, ¬ Inside b) := by
  induction k generalizing bytes with
  | zero => exact ⟨[], bytes, rfl, nofun, .inl rfl⟩
  | succ k ih =>
    cases bytes with
    | nil => exact ⟨[], [], rfl, nofun, .inr ⟨Nat.succ_pos k, nofun⟩⟩
    | cons b bytes =>
      by_cases hb : Inside b
      · obtain ⟨tail, rest, rfl, htail, hlength⟩ := ih bytes
        refine ⟨b :: tail, rest, rfl, ?_, ?_⟩
        · exact List.forall_mem_cons.2 ⟨hb, htail⟩
        · rw [List.length_cons]
          exact hlength.imp (congrArg _) fun ⟨hlt, hrest⟩ => ⟨Nat.succ_lt_succ hlt, hrest⟩
      · refine ⟨[], b :: bytes, rfl, nofun, .inr ⟨Nat.succ_pos k, fun x hx => ?_⟩⟩
        obtain rfl := Option.some.inj hx
        exact hb

/-- A first byte begins a form: the spans of the three forms follow each other without a gap. -/
theorem exists_form {b : UInt8} (hlow : 0xC0 ≤ b.toNat) (hhigh : b.toNat < 0xF8) :
    ∃ form : Form, form.lead ≤ b.toNat ∧ b.toNat < form.lead + form.span := by
  rcases Nat.lt_or_ge b.toNat 0xE0 with htwo | hge
  · exact ⟨.two, hlow, htwo⟩
  rcases Nat.lt_or_ge b.toNat 0xF0 with hthree | hge'
  · exact ⟨.three, hge, hthree⟩
  · exact ⟨.four, hge', hhigh⟩

/-- Behind a first byte the number is completed, or it is cut off. In the first case it is a
character or a bad number, and in the second the bytes are malformed whatever they would have
meant. -/
theorem Form.front_cases (form : Form) {b : UInt8} (hlead : form.lead ≤ b.toNat)
    (hspan : b.toNat < form.lead + form.span) (bytes : List UInt8) :
    (∃ c rest, b :: bytes = String.utf8EncodeChar c ++ rest) ∨ Malformed (b :: bytes) := by
  obtain ⟨tail, rest, rfl, htail, hlength | ⟨hlength, hrest⟩⟩ :=
    exists_inside_append form.later bytes
  · obtain ⟨hbytes, hsize⟩ := form.bytes_joined hlead hspan hlength htail
    rw [← List.cons_append, ← hbytes]
    exact (form.bytes_cases hsize rest).imp_left fun ⟨c, hc⟩ => ⟨c, rest, by rw [hc]⟩
  · -- The number that is cut off might have gone on with bytes without bits.
    let back := List.replicate (form.later - tail.length) (0x80 : UInt8)
    have hback : back ≠ [] := by
      rw [Ne, List.replicate_eq_nil_iff]
      omega
    have hwhole : ∀ x ∈ tail ++ back, Inside x := by
      intro x hx
      rcases List.mem_append.1 hx with hx | hx
      · exact htail x hx
      · obtain rfl := List.eq_of_mem_replicate hx
        exact ⟨by decide, by decide⟩
    have hlength' : (tail ++ back).length = form.later := by
      rw [List.length_append, List.length_replicate]
      omega
    obtain ⟨hbytes, hsize⟩ := form.bytes_joined hlead hspan hlength' hwhole
    rw [← List.cons_append] at hbytes
    exact .inr (.truncated hsize hbytes (List.cons_ne_nil b tail) hback hrest)

/-- At the front of bytes stands a character, or they are malformed. The first byte decides which of
the ways to go wrong is possible. -/
theorem front_cases (b : UInt8) (bytes : List UInt8) :
    (∃ c rest, b :: bytes = String.utf8EncodeChar c ++ rest) ∨ Malformed (b :: bytes) := by
  rcases Nat.lt_or_ge b.toNat 0x80 with hlow | hge
  · have hc : (Char.ofNat b.toNat).toNat = b.toNat := toNat_charOfNat (.inl (by omega))
    refine .inl ⟨Char.ofNat b.toNat, bytes, ?_⟩
    rw [utf8EncodeChar_one (by omega), hc, UInt8.ofNat_toNat]
    rfl
  rcases Nat.lt_or_ge b.toNat 0xC0 with hinside | hge'
  · exact .inr (.stray (.inl ⟨hge, hinside⟩) bytes)
  rcases Nat.lt_or_ge b.toNat 0xF8 with hlead | hhigh
  · obtain ⟨form, hlead, hspan⟩ := exists_form hge' hlead
    exact form.front_cases hlead hspan bytes
  · exact .inr (.stray (.inr hhigh) bytes)

/-- **Bytes are the form of a text, up to where they are malformed,** if they are so anywhere. One
character after the other is taken off the front, by induction on the length, until there are none
or one cannot be taken. -/
theorem exists_text_append (bytes : List UInt8) :
    ∃ t rest, bytes = encode t ++ rest ∧ (rest = [] ∨ Malformed rest) := by
  induction hlength : bytes.length using Nat.strongRecOn generalizing bytes with
  | ind n ih =>
    cases bytes with
    | nil => exact ⟨[], [], rfl, .inl rfl⟩
    | cons b bytes =>
      rcases front_cases b bytes with ⟨c, rest, hc⟩ | hmalformed
      · have hpos : 0 < (String.utf8EncodeChar c).length :=
          List.length_pos_iff.2 String.utf8EncodeChar_ne_nil
        have hlt : rest.length < n := by
          rw [← hlength, hc, List.length_append]
          omega
        obtain ⟨t, rest', rfl, hrest⟩ := ih _ hlt rest rfl
        exact ⟨c :: t, rest', by rw [hc, encode_cons, List.append_assoc], hrest⟩
      · exact ⟨[], b :: bytes, rfl, .inr hmalformed⟩

/-! ## What the machine refuses -/

/-- A byte that begins no character: one from the midst of a character, one of the two that could
only begin forms longer than needed, or one beyond the last character. -/
theorem start_eq_bad {b : UInt8} (h : 0x80 ≤ b.toNat ∧ b.toNat < 0xC2 ∨ 0xF4 < b.toNat) :
    start b = .bad := by
  unfold start
  simp only
  rcases h with ⟨hlow, hhigh⟩ | hhigh
  · rw [if_neg (by omega), if_pos hhigh]
  · rw [if_neg (by omega), if_neg (by omega), if_neg (by omega), if_neg (by omega),
      if_neg (by omega), if_neg (by omega), if_neg (by omega), if_neg (by omega),
      if_neg (by omega)]

/-- Bytes whose first one begins no character are not all characters. It is shown as a piece of its
own. -/
theorem none_mem_pieces_of_bad {b : UInt8} (h : start b = .bad) (rest : List UInt8) :
    none ∈ pieces none (b :: rest) := by
  simp only [pieces, h]
  exact List.mem_cons_self

/-- A byte out of the bounds that a character sets does not go on with it, and the character shows
as a piece that broke off. -/
theorem none_mem_pieces_of_out {w : Waiting} {b : UInt8}
    (h : ¬ (w.low ≤ b.toNat ∧ b.toNat ≤ w.high)) (rest : List UInt8) :
    none ∈ pieces (some w) (b :: rest) := by
  rw [pieces, if_neg h]
  exact List.mem_cons_self

/-- A character does not get by with fewer bytes than it waits for. Either the bytes end, or the
next one is not from the midst of a character, or one of those before was out of bounds. -/
theorem none_mem_pieces_of_short {w : Waiting} {tail rest : List UInt8}
    (hlength : tail.length ≤ w.later) (hlow : 0x80 ≤ w.low) (hhigh : w.high ≤ 0xBF)
    (hrest : ∀ b ∈ rest.head?, ¬ Inside b) : none ∈ pieces (some w) (tail ++ rest) := by
  induction tail generalizing w with
  | nil =>
    cases rest with
    | nil => exact List.mem_singleton_self none
    | cons b rest =>
      refine none_mem_pieces_of_out (fun ⟨hb, hb'⟩ => hrest b rfl ⟨?_, ?_⟩) rest
      · omega
      · omega
  | cons b tail ih =>
    by_cases hb : w.low ≤ b.toNat ∧ b.toNat ≤ w.high
    · obtain ⟨n, hn⟩ : ∃ n, w.later = n + 1 := by
        refine ⟨w.later - 1, ?_⟩
        rw [List.length_cons] at hlength
        omega
      rw [List.cons_append, pieces, if_pos hb, hn]
      rw [List.length_cons, hn] at hlength
      exact ih (Nat.le_of_succ_le_succ hlength) (Nat.le_refl _) (Nat.le_refl _)
    · exact none_mem_pieces_of_out hb (tail ++ rest)

/-- A first byte begins no character, or one that waits for the bytes of its form. What it waits for
is never wider than the bytes from the midst of a character. -/
theorem Form.start_cases (form : Form) {m : Nat} (h : m < form.span) :
    start (UInt8.ofNat (m + form.lead)) = .bad ∨
      ∃ w, start (UInt8.ofNat (m + form.lead)) = .lead w ∧ w.later + 1 = form.later ∧
        0x80 ≤ w.low ∧ w.high ≤ 0xBF := by
  cases form with
  | two =>
    simp only [span] at h
    rcases Nat.lt_or_ge m 2 with hlow | hge
    · refine .inl (start_eq_bad (.inl ?_))
      rw [toNat_ofNat (by simp only [lead]; omega)]
      simp only [lead]
      omega
    · exact .inr ⟨_, start_two hge h, rfl, Nat.le_refl _, Nat.le_refl _⟩
  | three =>
    refine .inr ⟨_, start_three h, rfl, ?_, ?_⟩
    · dsimp only
      split <;> decide
    · dsimp only
      split <;> decide
  | four =>
    simp only [span] at h
    rcases Nat.lt_or_ge m 5 with hlow | hge
    · refine .inr ⟨_, start_four hlow, rfl, ?_, ?_⟩
      · dsimp only
        split <;> decide
      · dsimp only
        split <;> decide
    · refine .inl (start_eq_bad (.inr ?_))
      rw [toNat_ofNat (by simp only [lead]; omega)]
      simp only [lead]
      omega

/-- A number that is cut off is refused, by the end of the bytes or by the byte that cuts it off. It
may be a good number or a bad one; both wait for more bytes than there are. -/
theorem Form.refuses_truncated (form : Form) {n : Nat} (hn : n < form.size)
    {front back rest : List UInt8} (h : form.bytes n = front ++ back) (hfront : front ≠ [])
    (hback : back ≠ []) (hrest : ∀ b ∈ rest.head?, ¬ Inside b) :
    none ∈ pieces none (front ++ rest) := by
  have hspan : n / 64 ^ form.later < form.span :=
    (Nat.div_lt_iff_lt_mul (Nat.pow_pos (by decide))).2 hn
  cases front with
  | nil => exact absurd rfl hfront
  | cons b tail =>
    obtain ⟨rfl, htail⟩ := List.cons.inj (h.trans (List.cons_append ..))
    have hshort : tail.length < form.later := by
      have hsum := congrArg List.length htail
      rw [length_tailBytes, List.length_append] at hsum
      have := List.length_pos_iff.2 hback
      omega
    rw [List.cons_append]
    rcases form.start_cases hspan with hbad | ⟨w, hw, hlater, hlow, hhigh⟩
    · exact none_mem_pieces_of_bad hbad _
    · rw [pieces_lead hw]
      exact none_mem_pieces_of_short (by omega) hlow hhigh hrest

/-- A number in more bytes than it needs is refused at its first or second byte. With two bytes no
first byte begins such a number; with three or four the second one is below its bound. -/
theorem Form.refuses_overlong (form : Form) {n : Nat} (h : n < form.least) (rest : List UInt8) :
    none ∈ pieces none (form.bytes n ++ rest) := by
  cases form with
  | two =>
    simp only [least] at h
    refine none_mem_pieces_of_bad (start_eq_bad (.inl ?_)) _
    simp only [later, lead]
    rw [toNat_ofNat (by omega)]
    omega
  | three =>
    simp only [least] at h
    have hzero : n / 64 ^ 2 = 0 := Nat.div_eq_of_lt (by omega)
    rw [bytes, List.cons_append]
    simp only [later, lead, hzero]
    rw [pieces_lead (start_three (by omega)), tailBytes, List.cons_append]
    refine none_mem_pieces_of_out ?_ _
    rw [toNat_tail (Nat.mod_lt _ (by decide))]
    simp only [if_true]
    omega
  | four =>
    simp only [least] at h
    have hzero : n / 64 ^ 3 = 0 := Nat.div_eq_of_lt (by omega)
    rw [bytes, List.cons_append]
    simp only [later, lead, hzero]
    rw [pieces_lead (start_four (by omega)), tailBytes, List.cons_append]
    refine none_mem_pieces_of_out ?_ _
    rw [toNat_tail (Nat.mod_lt _ (by decide))]
    simp only [if_true]
    omega

/-- A surrogate is refused at its second byte. All surrogates have the same first byte, which sets
the bound of the second one to keep them out. -/
theorem refuses_surrogate {n : Nat} (h : 0xD800 ≤ n) (h' : n ≤ 0xDFFF) (rest : List UInt8) :
    none ∈ pieces none (Form.three.bytes n ++ rest) := by
  have hthirteen : n / 64 ^ 2 = 13 := by omega
  rw [Form.bytes, List.cons_append]
  simp only [Form.later, Form.lead, hthirteen]
  rw [pieces_lead (start_three (by omega)), tailBytes, List.cons_append]
  refine none_mem_pieces_of_out ?_ _
  rw [toNat_tail (Nat.mod_lt _ (by decide))]
  simp only [if_true]
  omega

/-- A number beyond the last character is refused at its first or second byte. -/
theorem refuses_beyond {n : Nat} (h : 0x110000 ≤ n) (h' : n < Form.four.size) (rest : List UInt8) :
    none ∈ pieces none (Form.four.bytes n ++ rest) := by
  simp only [Form.size, Form.span, Form.later] at h'
  rw [Form.bytes, List.cons_append]
  simp only [Form.later, Form.lead]
  by_cases hfour : n / 64 ^ 3 = 4
  · rw [hfour, pieces_lead (start_four (by omega)), tailBytes, List.cons_append]
    refine none_mem_pieces_of_out ?_ _
    rw [toNat_tail (Nat.mod_lt _ (by decide))]
    simp only [if_true]
    omega
  · refine none_mem_pieces_of_bad (start_eq_bad (.inr ?_)) _
    rw [toNat_ofNat (by omega)]
    omega

/-- What is malformed is refused, in whichever way it is malformed. This is the soundness of the
machine against `Malformed`, one case for each constructor. -/
theorem Malformed.refused {bytes : List UInt8} (h : Malformed bytes) :
    none ∈ pieces none bytes := by
  cases h with
  | stray h rest =>
    refine none_mem_pieces_of_bad (start_eq_bad ?_) rest
    exact h.imp (fun hinside => ⟨hinside.1, Nat.lt_trans hinside.2 (by decide)⟩)
      (Nat.lt_of_lt_of_le (by decide))
  | truncated hn h hfront hback hrest => exact Form.refuses_truncated _ hn h hfront hback hrest
  | overlong h rest => exact Form.refuses_overlong _ h rest
  | surrogate h h' rest => exact refuses_surrogate h h' rest
  | beyond h h' rest => exact refuses_beyond h h' rest

/-! ## Decoding -/

/-- One missing member is enough for a list to be refused. -/
theorem allPresent_eq_none {items : List (Option Char)} (h : none ∈ items) :
    allPresent items = none := by
  induction items with
  | nil => cases h
  | cons item items ih =>
    cases item with
    | none => rfl
    | some c =>
      have hrest : none ∈ items := by simpa using h
      rw [allPresent, ih hrest, Option.map_none]

/-- Members that are present stand in front of the others, if all of these are present. -/
theorem allPresent_append (t : List Char) (items : List (Option Char)) :
    allPresent (t.map some ++ items) = (allPresent items).map (t ++ ·) := by
  induction t with
  | nil => exact (Option.map_id_apply).symm
  | cons c t ih =>
    rw [List.map_cons, List.cons_append, allPresent, ih, Option.map_map]
    rfl

/-- Behind the form of a text, decoding goes on as it would at the start: the text is read, and then
the rest decides. -/
theorem decode?_encode_append (t : List Char) (rest : List UInt8) :
    decode? (encode t ++ rest) = (decode? rest).map (t ++ ·) := by
  rw [decode?, pieces_encode_append, allPresent_append]
  rfl

/-- The bytes of a text are the form of it. This is the completeness of the machine: it refuses no
text. -/
theorem decode?_encode (t : List Char) : decode? (encode t) = some t := by
  have hdecode := decode?_encode_append t []
  rw [List.append_nil] at hdecode
  rw [hdecode]
  exact congrArg some (List.append_nil t)

/-- Bytes that are malformed anywhere are the form of no text, however much of a text stands
before. -/
theorem Malformed.decode?_append {rest : List UInt8} (h : Malformed rest) (t : List Char) :
    decode? (encode t ++ rest) = none := by
  rw [decode?_encode_append, decode?, allPresent_eq_none h.refused, Option.map_none]

/-- **Exactly the forms of texts are read,** each one as its text. Of the two directions one is
`decode?_encode`; for the other the bytes are cut where they are malformed, which must be
nowhere. -/
theorem decode?_eq_some_iff {bytes : List UInt8} {t : List Char} :
    decode? bytes = some t ↔ bytes = encode t := by
  refine ⟨fun h => ?_, fun h => h ▸ decode?_encode t⟩
  obtain ⟨t', rest, rfl, rfl | hmalformed⟩ := exists_text_append bytes
  · rw [List.append_nil, decode?_encode] at h
    rw [List.append_nil, Option.some.inj h]
  · rw [hmalformed.decode?_append] at h
    cases h

/-- Texts with the same bytes are the same, since both are what is read from the bytes. -/
theorem encode_injective {t u : List Char} (h : encode t = encode u) : t = u := by
  have hdecode := decode?_encode t
  rw [h, decode?_encode] at hdecode
  exact (Option.some.inj hdecode).symm

/-- What is refused are the bytes that are the form of no text. -/
theorem decode?_eq_none_iff {bytes : List UInt8} :
    decode? bytes = none ↔ ∀ t, bytes ≠ encode t := by
  rw [Option.eq_none_iff_forall_ne_some]
  exact forall_congr' fun t => not_congr decode?_eq_some_iff

/-- **Bytes that are no text go wrong somewhere:** behind the form of a text they are malformed. So
the two ways to say that bytes are no text, by all texts and by where they go wrong, are one. -/
theorem not_encode_iff_malformed {bytes : List UInt8} :
    (∀ t, bytes ≠ encode t) ↔ ∃ t rest, bytes = encode t ++ rest ∧ Malformed rest := by
  refine ⟨fun h => ?_, ?_⟩
  · obtain ⟨t, rest, rfl, rfl | hmalformed⟩ := exists_text_append bytes
    · exact absurd (List.append_nil _) (h t)
    · exact ⟨t, rest, rfl, hmalformed⟩
  · rintro ⟨t, rest, rfl, hmalformed⟩
    exact decode?_eq_none_iff.1 (hmalformed.decode?_append t)

end Utf8

end DeviceReadings
