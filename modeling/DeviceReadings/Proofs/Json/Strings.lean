import DeviceReadings.Json.StringLiteral
import DeviceReadings.Proofs.Json.Reads
import Mathlib.Tactic.ByContra

/-!
# Spellings of a string

How a text may be spelled between quotes (`Spelling`): most characters stand for themselves, and
every character can be escaped, by a letter or by its 16-bit units in hexadecimal (`Escape`). What
`stringLiteral` reads is a spelling and its closing quote, and what it gives is the text that is
spelled (`reads_stringLiteral`).

The decoder takes bytes over without looking at characters. For characters of several bytes this is
right because none of these bytes is one of those that it looks for (`stringBytes_high`).
-/

namespace DeviceReadings

namespace Json

open Utf8

/-! ## The grammar -/

/-- The digits of hexadecimal numbers, each at the place of its value. -/
def hexChars : List Char :=
  ['0', '1', '2', '3', '4', '5', '6', '7', '8', '9', 'a', 'b', 'c', 'd', 'e', 'f']

/-- The value of a hexadecimal digit, in either case. -/
def hexCharValue? (c : Char) : Option Nat :=
  hexChars.idxOf? c.toLower

/-- Four hexadecimal digits and their value. -/
inductive HexUnit : List Char → Nat → Prop where
  | mk {a b c d : Char} {i j k l : Nat} (ha : hexCharValue? a = some i)
      (hb : hexCharValue? b = some j) (hc : hexCharValue? c = some k)
      (hd : hexCharValue? d = some l) :
      HexUnit [a, b, c, d] (((i * 16 + j) * 16 + k) * 16 + l)

/-- The letters that stand for a character when they are escaped. -/
def shortEscapes : List (Char × Char) :=
  [('"', '"'), ('\\', '\\'), ('/', '/'), ('b', '\x08'), ('f', '\x0c'), ('n', '\n'), ('r', '\r'),
    ('t', '\t')]

/-- A character by its units, without the letter that announces them: one unit that is no half of a
pair, or both halves of one. -/
inductive UnitEscape : List Char → Char → Prop where
  | unit {u : List Char} {n : Nat} (h : HexUnit u n) (hhigh : isHighSurrogate n = false)
      (hlow : isLowSurrogate n = false) : UnitEscape u (Char.ofNat n)
  | pair {u v : List Char} {high low : Nat} (hu : HexUnit u high) (hv : HexUnit v low)
      (hhigh : isHighSurrogate high = true) (hlow : isLowSurrogate low = true) :
      UnitEscape (u ++ '\\' :: 'u' :: v) (ofSurrogates high low)

/-- What stands behind a backslash, for one character. -/
inductive Escape : List Char → Char → Prop where
  | short {letter c : Char} (h : (letter, c) ∈ shortEscapes) : Escape [letter] c
  | units {u : List Char} {c : Char} (h : UnitEscape u c) : Escape ('u' :: u) c

/-- A character that may stand between quotes for itself. -/
def StandsPlain (c : Char) : Prop :=
  c ≠ '"' ∧ c ≠ '\\' ∧ 0x20 ≤ c.toNat

/-- What stands between quotes, and the text that it spells. -/
inductive Spelling : List Char → List Char → Prop where
  | nil : Spelling [] []
  | plain {c : Char} {u t : List Char} (h : StandsPlain c) (hu : Spelling u t) :
      Spelling (c :: u) (c :: t)
  | escape {e u t : List Char} {c : Char} (h : Escape e c) (hu : Spelling u t) :
      Spelling ('\\' :: e ++ u) (c :: t)

/-! ## Hexadecimal numbers -/

/-- The byte of a character is a hexadecimal digit just if the character is, with the same value.
There are 128 of them, and each one is looked at. -/
theorem hexDigit?_ascii : ∀ n < 128, hexDigit? (UInt8.ofNat n) = hexCharValue? (Char.ofNat n) := by
  decide +kernel

/-- Only bytes of the first 128 are hexadecimal digits, and so they are whole characters. -/
theorem low_of_hexDigit? {b : UInt8} {n : Nat} (h : hexDigit? b = some n) : b.toNat < 0x80 := by
  by_contra hge
  rw [hexDigit?, if_neg (by omega), if_neg (by omega), if_neg (by omega)] at h
  cases h

/-- Only characters of the first 128 are hexadecimal digits. -/
theorem low_of_hexCharValue? {c : Char} {n : Nat} (h : hexCharValue? c = some n) :
    c.toNat < 0x80 := by
  by_contra hge
  have hupper : ¬ (c.val ≥ 'A'.val ∧ c.val ≤ 'Z'.val) := by
    rintro ⟨-, hle⟩
    have hZ : c.toNat ≤ 0x5A := hle
    omega
  have hlower : c.toLower = c := dif_neg hupper
  rw [hexCharValue?, hlower] at h
  have hmem : c ∈ hexChars := by
    by_contra hmem
    rw [List.idxOf?_eq_none_iff.2 hmem] at h
    cases h
  have hall : hexChars.all (fun d => decide (d.toNat < 0x80)) = true := by decide
  exact hge (of_decide_eq_true (List.all_eq_true.1 hall c hmem))

/-- A hexadecimal digit at the front of the bytes of a text is one at the front of the text, and the
rest of the bytes is the form of the rest of the text. -/
theorem hexDigit?_front {t : List Char} {b : UInt8} {s : List UInt8} {n : Nat}
    (h : hexDigit? b = some n) (ht : encode t = b :: s) :
    ∃ c m, t = c :: m ∧ s = encode m ∧ hexCharValue? c = some n := by
  have hlow := low_of_hexDigit? h
  obtain ⟨m, rfl, hs⟩ := encode_eq_low_cons hlow ht
  refine ⟨_, m, rfl, hs, ?_⟩
  rw [← hexDigit?_ascii b.toNat hlow, UInt8.ofNat_toNat, h]

/-- The byte of a hexadecimal digit is one with the same value. -/
theorem hexDigit?_char {c : Char} {n : Nat} (h : hexCharValue? c = some n) :
    hexDigit? (ascii c) = some n := by
  rw [ascii, hexDigit?_ascii c.toNat (low_of_hexCharValue? h), Char.ofNat_toNat, h]

/-- Four hexadecimal digits are read as their number, and nothing else is. Capitals and small
letters are digits alike. -/
theorem reads_hexUnit : Reads .chars hexUnit HexUnit := by
  intro t n s
  refine ⟨?_, ?_⟩
  · intro h
    unfold hexUnit at h
    split at h
    · next a b c d rest ht =>
      split at h
      · next n' hv =>
        cases h
        simp only [hexValue?, Option.bind_eq_some_iff, Option.some.injEq] at hv
        obtain ⟨i, hi, j, hj, k, hk, l, hl, rfl⟩ := hv
        obtain ⟨a', t₁, rfl, h₁, ha⟩ := hexDigit?_front hi ht
        obtain ⟨b', t₂, rfl, h₂, hb⟩ := hexDigit?_front hj h₁.symm
        obtain ⟨c', t₃, rfl, h₃, hc⟩ := hexDigit?_front hk h₂.symm
        obtain ⟨d', t₄, rfl, h₄, hd⟩ := hexDigit?_front hl h₃.symm
        refine ⟨[a', b', c', d'], t₄, rfl, ?_, h₄⟩
        have hunit := HexUnit.mk ha hb hc hd
        rwa [Nat.zero_mul, Nat.zero_add]
      · cases h
    · cases h
  · intro h
    obtain ⟨u, r, rfl, ⟨ha, hb, hc, hd⟩, rfl⟩ := h
    simp only [List.cons_append, List.nil_append]
    rw [encode_cons_ascii (low_of_hexCharValue? ha), encode_cons_ascii (low_of_hexCharValue? hb),
      encode_cons_ascii (low_of_hexCharValue? hc), encode_cons_ascii (low_of_hexCharValue? hd)]
    simp only [hexUnit, hexValue?, hexDigit?_char ha, hexDigit?_char hb, hexDigit?_char hc,
      hexDigit?_char hd, Option.bind_some, Nat.zero_mul, Nat.zero_add]

/-! ## Escapes -/

/-- A given character between the units of a pair is read as it stands. The pair has to be complete,
and anything else in its place is a fault. -/
theorem reads_pairByte {c : Char} (hc : c.toNat < 0x80) :
    Reads .chars (pairByte c) fun u _ => u = [c] := by
  intro t a s
  refine ⟨?_, ?_⟩
  · intro h
    unfold pairByte at h
    split at h
    · cases h
    · next b rest ht =>
      split at h
      · next hb =>
        subst hb
        cases h
        obtain ⟨m, rfl, rfl⟩ := (encode_eq_cons_ascii hc).1 ht
        exact ⟨[c], m, rfl, rfl, rfl⟩
      · cases h
  · intro h
    obtain ⟨u, r, rfl, rfl, rfl⟩ := h
    rw [List.singleton_append, encode_cons_ascii hc]
    exact if_pos rfl

/-- A half of a pair is the first one or the second one, never both. The order of the two tests in
the decoder does not matter for that reason. -/
theorem isLowSurrogate_of_high {n : Nat} (h : isHighSurrogate n = true) :
    isLowSurrogate n = false := by
  simp only [isHighSurrogate, isLowSurrogate, Bool.and_eq_true, decide_eq_true_eq,
    Bool.and_eq_false_iff, decide_eq_false_iff_not] at h ⊢
  omega

/-- The second half of a pair: a backslash, the letter, and a number that is a second half. Only
with it the first half is a character. -/
theorem reads_secondUnit (high : Nat) :
    Reads .chars
      (do
        pairByte '\\'
        pairByte 'u'
        let low ← hexUnit
        if isLowSurrogate low then pure (ofSurrogates high low) else failHere .loneSurrogate)
      fun w c => ∃ v low, w = '\\' :: 'u' :: v ∧ HexUnit v low ∧ isLowSurrogate low = true ∧
        c = ofSurrogates high low := by
  have hvalue (low : Nat) := Reads.ite (p := isLowSurrogate low)
    (fun _ => Reads.pure (C := .chars) (ofSurrogates high low))
    fun _ => Reads.fail (failHere_ne_ok .loneSurrogate)
  have hall := (reads_pairByte (c := '\\') (by decide)).bind fun _ =>
    (reads_pairByte (c := 'u') (by decide)).bind fun _ => reads_hexUnit.bind hvalue
  refine hall.congr fun w c => ?_
  refine ⟨?_, ?_⟩
  · intro h
    obtain ⟨_, _, _, rfl, rfl, _, _, _, rfl, rfl, v, _, low, rfl, hv, ⟨hlow, rfl, hc⟩ | ⟨_, h⟩⟩ := h
    · exact ⟨v, low, by rw [List.append_nil]; rfl, hv, hlow, hc⟩
    · exact h.elim
  · intro h
    obtain ⟨v, low, rfl, hv, hlow, hc⟩ := h
    exact ⟨_, _, (), rfl, rfl, _, _, (), rfl, rfl, v, [], low, (List.append_nil v).symm, hv,
      .inl ⟨hlow, rfl, hc⟩⟩

/-- A number behind the letter `u` is read as the character of it, or together with a second one as
the character of the pair. -/
theorem reads_unitEscape : Reads .chars unitEscape UnitEscape := by
  have hchoice (high : Nat) := Reads.ite (p := isLowSurrogate high)
    (fun _ => Reads.fail (C := .chars) (failHere_ne_ok .loneSurrogate))
    fun _ => Reads.ite (p := isHighSurrogate high) (fun _ => reads_secondUnit high)
      fun _ => Reads.pure (Char.ofNat high)
  refine (reads_hexUnit.bind hchoice).congr fun w c => ?_
  refine ⟨?_, ?_⟩
  · intro h
    obtain ⟨u, _, n, rfl, hu, ⟨_, h⟩ | ⟨hlow, hunit⟩⟩ := h
    · exact h.elim
    rcases hunit with ⟨hhigh, v, low, rfl, hv, hlow', hc⟩ | ⟨hhigh, rfl, hc⟩
    · rw [hc]
      exact .pair hu hv hhigh hlow'
    · rw [hc, List.append_nil]
      exact .unit hu (eq_false_of_ne_true hhigh) (eq_false_of_ne_true hlow)
  · intro h
    cases h with
    | @unit u n hu hhigh hlow =>
      exact ⟨w, [], n, (List.append_nil w).symm, hu, .inr ⟨ne_true_of_eq_false hlow,
        .inr ⟨ne_true_of_eq_false hhigh, rfl, rfl⟩⟩⟩
    | @pair u v high low hu hv hhigh hlow =>
      exact ⟨u, _, high, rfl, hu, .inr ⟨ne_true_of_eq_false (isLowSurrogate_of_high hhigh),
        .inl ⟨hhigh, v, low, rfl, hv, hlow, rfl⟩⟩⟩

/-- A byte that stands for a character when it is escaped is a letter that does, and is of the first
128. -/
theorem mem_shortEscapes {b : UInt8} {c : Char} (h : shortEscape? b = some c) :
    b.toNat < 0x80 ∧ (Char.ofNat b.toNat, c) ∈ shortEscapes := by
  have hall : ∀ n < 256, (shortEscape? (UInt8.ofNat n)).all
      fun c => decide (n < 0x80 ∧ (Char.ofNat n, c) ∈ shortEscapes) := by decide +kernel
  have hb := hall b.toNat b.toNat_lt
  rwa [UInt8.ofNat_toNat, h, Option.all_some, decide_eq_true_eq] at hb

/-- The byte of a letter that stands for a character when it is escaped does so too. None of these
letters is the one of the numbers. -/
theorem shortEscape?_of_mem {letter c : Char} (h : (letter, c) ∈ shortEscapes) :
    letter.toNat < 0x80 ∧ ascii letter ≠ ascii 'u' ∧ shortEscape? (ascii letter) = some c := by
  have hall : shortEscapes.all (fun p => decide (p.1.toNat < 0x80 ∧ ascii p.1 ≠ ascii 'u' ∧
      shortEscape? (ascii p.1) = some p.2)) = true := by decide
  exact of_decide_eq_true (List.all_eq_true.1 hall (letter, c) h)

/-- Behind a backslash stands a number in its letter, or one of the letters that stand for a
character; everything else is a fault. -/
theorem escape_cons (b : UInt8) (s : List UInt8) :
    escape (b :: s) =
      if b = ascii 'u' then unitEscape s
      else
        match shortEscape? b with
        | some c => .ok (c, s)
        | none => failHere .invalidEscape s :=
  rfl

/-- What is read behind a backslash is an escape of the grammar, and it is read as the character
that it stands for. -/
theorem reads_escape : Reads .chars escape Escape := by
  intro t c s
  refine ⟨?_, ?_⟩
  · intro h
    unfold escape at h
    split at h
    · cases h
    · next b rest ht =>
      split at h
      · next hb =>
        subst hb
        obtain ⟨m, rfl, rfl⟩ := (encode_eq_cons_ascii (c := 'u') (by decide)).1 ht
        obtain ⟨u, r, rfl, hu, rfl⟩ := (reads_unitEscape m c s).1 h
        exact ⟨'u' :: u, r, rfl, .units hu, rfl⟩
      · split at h
        · next hc =>
          cases h
          obtain ⟨hlow, hmem⟩ := mem_shortEscapes hc
          obtain ⟨m, rfl, rfl⟩ := encode_eq_low_cons hlow ht
          exact ⟨[Char.ofNat b.toNat], m, rfl, .short hmem, rfl⟩
        · cases h
  · intro h
    obtain ⟨u, r, rfl, hu, rfl⟩ := h
    cases hu with
    | @short letter c h =>
      obtain ⟨hlow, hu, hc⟩ := shortEscape?_of_mem h
      rw [List.singleton_append, encode_cons_ascii hlow, escape_cons, if_neg hu, hc]
    | @units u c h =>
      rw [List.cons_append, encode_cons_ascii (by decide), escape_cons, if_pos rfl]
      exact (reads_unitEscape _ _ _).2 ⟨u, r, rfl, h, rfl⟩

/-! ## Whole strings -/

variable {fuel : Nat}

/-- One round of the loop over a string: it ends at a quote, an escape comes to the bytes of its
character, a control character is a fault, and any other byte is taken over. -/
theorem stringBytes_succ (b : UInt8) (s : List UInt8) :
    stringBytes (fuel + 1) (b :: s) =
      if b = ascii '"' then .ok ([], s)
      else if b = ascii '\\' then
        match escape s with
        | .error fault => .error fault
        | .ok (c, s') => (stringBytes fuel s').map fun r => (String.utf8EncodeChar c ++ r.1, r.2)
      else if b.toNat < 0x20 then failHere .controlCharacter s
      else (stringBytes fuel s).map fun r => (b :: r.1, r.2) :=
  rfl

/-- What is put in front of the bytes that were read, is in front of what comes out, and the rest
has been read on its own. -/
theorem map_prepend_eq_ok (bs : List UInt8) {x : Except Fault (List UInt8 × List UInt8)}
    {out r : List UInt8} :
    (x.map fun p => (bs ++ p.1, p.2)) = .ok (out, r) ↔
      ∃ out', out = bs ++ out' ∧ x = .ok (out', r) := by
  cases x with
  | error fault => exact ⟨nofun, fun ⟨_, _, h⟩ => nomatch h⟩
  | ok p =>
    obtain ⟨out', r'⟩ := p
    simp only [Except.map, Except.ok.injEq, Prod.mk.injEq]
    refine ⟨?_, ?_⟩
    · intro h
      obtain ⟨rfl, rfl⟩ := h
      exact ⟨out', rfl, rfl, rfl⟩
    · intro h
      obtain ⟨_, rfl, rfl, rfl⟩ := h
      exact ⟨rfl, rfl⟩

/-- A byte that is neither a quote nor a backslash nor a control character is taken over, in one
round. -/
theorem stringBytes_cons {b : UInt8} (hquote : b ≠ ascii '"') (hescape : b ≠ ascii '\\')
    (hcontrol : 0x20 ≤ b.toNat) {s out r : List UInt8} :
    stringBytes (fuel + 1) (b :: s) = .ok (out, r) ↔
      ∃ out', out = b :: out' ∧ stringBytes fuel s = .ok (out', r) := by
  rw [stringBytes_succ, if_neg hquote, if_neg hescape, if_neg (by omega)]
  exact map_prepend_eq_ok [b]

/-- Bytes beyond the first 128 are taken over. There may be several of them in a row, which are the
bytes of one character here. -/
theorem stringBytes_high {bs : List UInt8} (hbs : ∀ b ∈ bs, 0x80 ≤ b.toNat)
    {s out r : List UInt8} :
    stringBytes fuel (bs ++ s) = .ok (out, r) ↔
      ∃ fuel' out', fuel = fuel' + bs.length ∧ out = bs ++ out' ∧
        stringBytes fuel' s = .ok (out', r) := by
  induction bs generalizing fuel out with
  | nil => simp
  | cons b bs ih =>
    have hb : 0x80 ≤ b.toNat := hbs b List.mem_cons_self
    have hne : ∀ c : Char, c.toNat < 0x80 → b ≠ ascii c := by
      rintro c hc rfl
      rw [toNat_ascii hc] at hb
      omega
    have hrest : ∀ b' ∈ bs, 0x80 ≤ b'.toNat := fun b' h => hbs b' (List.mem_cons_of_mem b h)
    cases fuel with
    | zero => exact ⟨nofun, fun ⟨_, _, h, _⟩ => by simp at h⟩
    | succ fuel =>
      rw [List.cons_append,
        stringBytes_cons (hne '"' (by decide)) (hne '\\' (by decide)) (by omega)]
      refine ⟨?_, ?_⟩
      · intro h
        obtain ⟨out', rfl, h⟩ := h
        obtain ⟨fuel', out'', rfl, rfl, hs⟩ := (ih hrest).1 h
        exact ⟨fuel', out'', rfl, rfl, hs⟩
      · intro h
        obtain ⟨fuel', out', hfuel, rfl, h⟩ := h
        have hfuel' : fuel = fuel' + bs.length := Nat.succ.inj hfuel
        exact ⟨bs ++ out', rfl, (ih hrest).2 ⟨fuel', out', hfuel', rfl, h⟩⟩

/-- The bytes of a character that stands for itself are taken over, in as many rounds as there are
bytes. Of one byte or of several, the character is in the string as it is in the text. -/
theorem stringBytes_plain {c : Char} (hc : StandsPlain c) {t : List Char} {out r : List UInt8} :
    stringBytes fuel (encode (c :: t)) = .ok (out, r) ↔
      ∃ fuel' out', fuel = fuel' + (String.utf8EncodeChar c).length ∧
        out = String.utf8EncodeChar c ++ out' ∧ stringBytes fuel' (encode t) = .ok (out', r) := by
  obtain ⟨hquote, hescape, hcontrol⟩ := hc
  rcases Nat.lt_or_ge c.toNat 0x80 with hlow | hhigh
  · cases fuel with
    | zero =>
      refine ⟨nofun, ?_⟩
      rintro ⟨fuel', _, hfuel, -⟩
      rw [utf8EncodeChar_one hlow, List.length_singleton] at hfuel
      omega
    | succ fuel =>
      rw [encode_cons_ascii hlow, stringBytes_cons (by rwa [Ne, ascii_inj hlow (by decide)])
        (by rwa [Ne, ascii_inj hlow (by decide)]) (by rwa [toNat_ascii hlow]),
        utf8EncodeChar_one hlow]
      refine ⟨?_, ?_⟩
      · intro h
        obtain ⟨out', rfl, h⟩ := h
        exact ⟨fuel, out', rfl, rfl, h⟩
      · intro h
        obtain ⟨fuel', out', hfuel, rfl, h⟩ := h
        obtain rfl : fuel = fuel' := Nat.succ.inj hfuel
        exact ⟨out', rfl, h⟩
  · rw [encode_cons]
    exact stringBytes_high fun b => high_of_mem_utf8EncodeChar hhigh

/-- Bytes that are read as a string spell one up to its closing quote. The induction is on the
rounds, and a character of several bytes takes several of them at once. -/
theorem spelling_of_stringBytes {t : List Char} {out s : List UInt8}
    (h : stringBytes fuel (encode t) = .ok (out, s)) :
    ∃ u text r, t = u ++ '"' :: r ∧ Spelling u text ∧ out = encode text ∧ s = encode r := by
  -- A plain character takes a round for each of its bytes, and so the induction is a strong one.
  induction fuel using Nat.strongRecOn generalizing t out s with
  | ind fuel ih =>
    cases t with
    | nil => cases fuel <;> cases h
    | cons c m =>
      by_cases hplain : StandsPlain c
      · obtain ⟨fuel', out', rfl, rfl, hrest⟩ := (stringBytes_plain hplain).1 h
        have hlength : 0 < (String.utf8EncodeChar c).length :=
          List.length_pos_iff.2 String.utf8EncodeChar_ne_nil
        obtain ⟨u, text, r, rfl, hu, rfl, rfl⟩ := ih fuel' (by omega) hrest
        exact ⟨c :: u, c :: text, r, rfl, .plain hplain hu, rfl, rfl⟩
      cases fuel with
      | zero => cases h
      | succ fuel =>
        by_cases hquote : c = '"'
        · subst hquote
          cases h
          exact ⟨[], [], m, rfl, .nil, rfl, rfl⟩
        by_cases hescape : c = '\\'
        · subst hescape
          rw [encode_cons_ascii (by decide), stringBytes_succ, if_neg (by decide), if_pos rfl] at h
          split at h
          · cases h
          · next c s' he =>
            obtain ⟨e, m', rfl, hec, rfl⟩ := (reads_escape m c s').1 he
            obtain ⟨out', rfl, hrest⟩ := (map_prepend_eq_ok _).1 h
            obtain ⟨u, text, r, rfl, hu, rfl, rfl⟩ := ih fuel (Nat.lt_succ_self fuel) hrest
            exact ⟨'\\' :: e ++ u, c :: text, r, by simp, .escape hec hu, rfl, rfl⟩
        · have hcontrol : c.toNat < 0x20 := Nat.lt_of_not_le fun h => hplain ⟨hquote, hescape, h⟩
          have hlow : c.toNat < 0x80 := by omega
          rw [encode_cons_ascii hlow, stringBytes_succ,
            if_neg (by rwa [ascii_inj hlow (by decide)]),
            if_neg (by rwa [ascii_inj hlow (by decide)]), if_pos (by rwa [toNat_ascii hlow])] at h
          cases h

/-- A spelling and its closing quote are read as a string, given enough fuel. The induction is on
the spelling, one case for each way to write a character. -/
theorem stringBytes_of_spelling {u text : List Char} (hu : Spelling u text) (r : List Char)
    (hfuel : (encode (u ++ '"' :: r)).length < fuel) :
    stringBytes fuel (encode (u ++ '"' :: r)) = .ok (encode text, encode r) := by
  induction hu generalizing fuel with
  | nil =>
    rw [List.nil_append, encode_cons_ascii (by decide)] at hfuel ⊢
    cases fuel with
    | zero => cases hfuel
    | succ fuel => rw [stringBytes_succ, if_pos rfl, encode_nil]
  | @plain c u t hplain _ ih =>
    rw [List.cons_append, encode_cons, List.length_append] at hfuel
    rw [List.cons_append, stringBytes_plain hplain]
    exact ⟨fuel - (String.utf8EncodeChar c).length, encode t, by omega, encode_cons c t,
      ih (by omega)⟩
  | @escape e u t c he _ ih =>
    have hsplit : '\\' :: e ++ u ++ '"' :: r = '\\' :: (e ++ (u ++ '"' :: r)) := by simp
    rw [hsplit, encode_cons_ascii (by decide)] at hfuel ⊢
    rw [encode_append, List.length_cons, List.length_append] at hfuel
    cases fuel with
    | zero => omega
    | succ fuel =>
      have hescape := (reads_escape _ c _).2 ⟨e, u ++ '"' :: r, rfl, he, rfl⟩
      rw [stringBytes_succ, if_neg (by decide), if_pos rfl, hescape]
      exact (map_prepend_eq_ok _).2 ⟨encode t, encode_cons c t, ih (by omega)⟩

/-- **What is read as a string literal is a spelling and its closing quote,** and comes to the text
that is spelled. -/
theorem reads_stringLiteral :
    Reads .chars stringLiteral fun w text => ∃ u, w = u ++ ['"'] ∧ Spelling u text := by
  intro t text s
  unfold stringLiteral
  refine ⟨?_, ?_⟩
  · intro h
    cases hbytes : stringBytes ((encode t).length + 1) (encode t) with
    | error fault => rw [hbytes] at h; cases h
    | ok p =>
      rw [hbytes] at h
      obtain ⟨out, s'⟩ := p
      obtain ⟨u, text', r, rfl, hu, rfl, rfl⟩ := spelling_of_stringBytes hbytes
      cases h
      rw [decodeLossy_encode]
      exact ⟨u ++ ['"'], r, by simp [Cutting.chars], ⟨u, rfl, hu⟩, rfl⟩
  · intro h
    obtain ⟨w, r, hcut, ⟨u, rfl, hu⟩, rfl⟩ := h
    have ht : t = u ++ '"' :: r := by simpa [Cutting.chars] using hcut
    rw [ht, stringBytes_of_spelling hu r (Nat.lt_succ_self _)]
    simp [Except.map, decodeLossy_encode]

end Json

end DeviceReadings
