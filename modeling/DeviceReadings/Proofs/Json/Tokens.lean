import DeviceReadings.Proofs.Json.Numbers
import DeviceReadings.Proofs.Json.Strings
import Mathlib.Data.List.DropRight

/-!
# Tokens

The tokens of configuration texts: marks, strings, `null` and natural numbers. `Begins t toks r`
says that the text `t` begins with some tokens and goes on with `r`; blanks may stand before every
token (`Cutting.tokens`).

Most decoders look at the next character that is no blank and choose by it. What such a choice reads
is settled character by character (`reads_of_peek`): `ReadsFront c d L` is `Reads` for texts that
begin with the character `c`, and only tokens that can begin with it count (`Token.Starts`).
-/

namespace DeviceReadings

namespace Json

open Utf8

/-! ## The grammar of tokens -/

/-- Is a character a blank? -/
def isBlankChar (c : Char) : Bool :=
  c = ' ' || c = '\n' || c = '\t' || c = '\r'

/-- Nothing but blanks. -/
def Blanks (t : List Char) : Prop :=
  ∀ c ∈ t, isBlankChar c = true

/-- The characters that are marks. -/
def marks : List Char :=
  ['{', '}', '[', ']', ':', ',']

/-- A token of a text. -/
inductive Token where
  | mark (c : Char)
  | string (text : List Char)
  | null
  | natural (n : Nat)
  deriving DecidableEq, Repr

/-- How a token is spelled in front of the rest of a text. -/
inductive Spells : Token → List Char → List Char → Prop where
  | mark {c : Char} {r : List Char} (h : c ∈ marks) : Spells (.mark c) [c] r
  | string {u text r : List Char} (h : Spelling u text) :
      Spells (.string text) ('"' :: (u ++ ['"'])) r
  | null {r : List Char} : Spells .null ['n', 'u', 'l', 'l'] r
  | natural {u r : List Char} {n : Nat} (h : Numeral u n) (hends : Ends r) : Spells (.natural n) u r

/-- A text begins with some tokens, each behind any blanks, and goes on with the rest. -/
inductive Begins : List Char → List Token → List Char → Prop where
  | nil {t : List Char} : Begins t [] t
  | cons {blanks u t r : List Char} {tok : Token} {toks : List Token} (hblanks : Blanks blanks)
      (hu : Spells tok u t) (ht : Begins t toks r) : Begins (blanks ++ u ++ t) (tok :: toks) r

/-- Can a token begin with a character? -/
def Token.Starts : Token → Char → Prop
  | mark m, c => c = m
  | string _, c => c = '"'
  | null, c => c = 'n'
  | natural _, c => c.isDigit = true

/-! ## Tokens at the front -/

/-- Marks are of the first 128 characters and no blanks. So they are found by their bytes, and not
passed over. -/
theorem low_of_mark {x : Char} (hx : x ∈ marks) : x.toNat < 0x80 ∧ isBlankChar x = false := by
  have hall : marks.all (fun x => decide (x.toNat < 0x80 ∧ isBlankChar x = false)) = true := by
    decide
  exact of_decide_eq_true (List.all_eq_true.1 hall x hx)

/-- A spelling begins with a character that is no blank, and with which the token can begin. A
decoder that chooses by the next character chooses a token in this way. -/
theorem Spells.front {tok : Token} {u r : List Char} (h : Spells tok u r) :
    ∃ c v, u = c :: v ∧ tok.Starts c ∧ isBlankChar c = false := by
  cases h with
  | @mark c _ hc => exact ⟨c, [], rfl, rfl, (low_of_mark hc).2⟩
  | @string v _ _ _ => exact ⟨'"', v ++ ['"'], rfl, rfl, by decide⟩
  | null => exact ⟨'n', ['u', 'l', 'l'], rfl, rfl, by decide⟩
  | natural hu _ =>
    cases u with
    | nil => exact absurd rfl hu.ne_nil
    | cons c v =>
      have hc := hu.digits c List.mem_cons_self
      refine ⟨c, v, rfl, hc, ?_⟩
      by_contra hblank
      simp only [isBlankChar, Bool.not_eq_false, Bool.or_eq_true, decide_eq_true_eq] at hblank
      rcases hblank with ((rfl | rfl) | rfl) | rfl <;> cases hc

/-- Blanks in front of a text make no difference once blanks are passed over. -/
theorem dropWhile_blanks {blanks t : List Char} (h : Blanks blanks) :
    (blanks ++ t).dropWhile isBlankChar = t.dropWhile isBlankChar := by
  rw [List.dropWhile_append_of_pos h]

/-- What is passed over in front of a text are blanks. -/
theorem blanks_takeWhile (t : List Char) : Blanks (t.takeWhile isBlankChar) :=
  fun _ => List.mem_takeWhile_imp

/-- The first token stands behind all the blanks at the front, and the others behind it. The blanks
are taken off as a whole since a spelling does not begin with one. -/
theorem begins_cons_iff {t r : List Char} {tok : Token} {toks : List Token} :
    Begins t (tok :: toks) r ↔
      ∃ u m, t.dropWhile isBlankChar = u ++ m ∧ Spells tok u m ∧ Begins m toks r := by
  refine ⟨?_, ?_⟩
  · intro h
    cases h with
    | @cons blanks u m _ _ _ hblanks hu ht =>
      refine ⟨u, m, ?_, hu, ht⟩
      obtain ⟨c, v, rfl, -, hc⟩ := hu.front
      rw [List.append_assoc, dropWhile_blanks hblanks, List.cons_append,
        List.dropWhile_cons_of_neg (ne_true_of_eq_false hc)]
  · intro h
    obtain ⟨u, m, ht, hu, hm⟩ := h
    have hsplit : t = t.takeWhile isBlankChar ++ u ++ m := by
      rw [List.append_assoc, ← ht, List.takeWhile_append_dropWhile]
    rw [hsplit]
    exact .cons (blanks_takeWhile t) hu hm

/-- A text begins with no tokens at all, and then all of it is left. Blanks at its front are left
with it. -/
theorem begins_nil_iff {t r : List Char} : Begins t [] r ↔ t = r := by
  refine ⟨fun h => ?_, ?_⟩
  · cases h
    rfl
  · rintro rfl
    exact .nil

/-- A text begins with tokens in two parts if it begins with those of the first part, and what is
left with those of the second. -/
theorem begins_append_iff {t r : List Char} {toks toks' : List Token} :
    Begins t (toks ++ toks') r ↔ ∃ m, Begins t toks m ∧ Begins m toks' r := by
  induction toks generalizing t with
  | nil => simp [begins_nil_iff]
  | cons tok toks ih =>
    rw [List.cons_append, begins_cons_iff]
    refine ⟨?_, ?_⟩
    · intro h
      obtain ⟨u, m, ht, hu, hm⟩ := h
      obtain ⟨m', hm, hm'⟩ := ih.1 hm
      exact ⟨m', begins_cons_iff.2 ⟨u, m, ht, hu, hm⟩, hm'⟩
    · intro h
      obtain ⟨m', hm, hm'⟩ := h
      obtain ⟨u, m, ht, hu, hm⟩ := begins_cons_iff.1 hm
      exact ⟨u, m, ht, hu, ih.2 ⟨m', hm, hm'⟩⟩

/-- Tokens are taken off with the blanks before them. -/
def Cutting.tokens : Cutting Token where
  cuts := Begins
  nil_iff := begins_nil_iff
  append_iff := begins_append_iff

/-- Before the first token blanks make no difference. There has to be one, since without tokens the
blanks would be left. -/
theorem begins_dropWhile_iff {t r : List Char} {toks : List Token} (h : toks ≠ []) :
    Begins (t.dropWhile isBlankChar) toks r ↔ Begins t toks r := by
  cases toks with
  | nil => exact absurd rfl h
  | cons tok toks => rw [begins_cons_iff, begins_cons_iff, List.dropWhile_idempotent]

/-- Tokens take bytes, at least one each. Loops over tokens come to an end because of it. -/
theorem length_lt_of_begins {t r : List Char} {tok : Token} {toks : List Token}
    (h : Begins t (tok :: toks) r) : (encode r).length < (encode t).length := by
  generalize hall : tok :: toks = all at h
  induction h generalizing tok toks with
  | nil => cases hall
  | @cons blanks u t r _ later _ hu hrest ih =>
    have hle : (encode r).length ≤ (encode t).length := by
      cases later with
      | nil => rw [begins_nil_iff.1 hrest]
      | cons tok' toks' => exact Nat.le_of_lt (ih rfl)
    obtain ⟨c, v, rfl, -, -⟩ := hu.front
    have hlength : 0 < (String.utf8EncodeChar c).length :=
      List.length_pos_iff.2 String.utf8EncodeChar_ne_nil
    simp only [encode_append, encode_cons, List.length_append]
    omega

/-- The first of the tokens that a text begins with can begin with the first character. Tokens are
told apart by it where they can be. -/
theorem starts_of_begins {c : Char} {t r : List Char} {tok : Token} {toks : List Token}
    (hc : isBlankChar c = false) (h : Begins (c :: t) (tok :: toks) r) : tok.Starts c := by
  obtain ⟨u, m, ht, hu, -⟩ := begins_cons_iff.1 h
  obtain ⟨d, v, rfl, hd, -⟩ := hu.front
  rw [List.dropWhile_cons_of_neg (ne_true_of_eq_false hc)] at ht
  obtain ⟨rfl, -⟩ := List.cons.inj ht
  exact hd

/-! ## The next character -/

/-- The first byte of a character. -/
def lead (c : Char) : UInt8 :=
  (String.utf8EncodeChar c).head String.utf8EncodeChar_ne_nil

/-- The first byte of a character, and behind it its other bytes and those of the rest of the
text. -/
theorem encode_lead (c : Char) (t : List Char) :
    encode (c :: t) = lead c :: ((String.utf8EncodeChar c).tail ++ encode t) := by
  rw [encode_cons, lead, ← List.cons_append, List.cons_head_tail]

/-- A choice by the next byte is one by the next character, as long as the byte is that of a
character of the first 128. -/
theorem lead_eq_iff {c x : Char} (hx : x.toNat < 0x80) : lead c = ascii x ↔ c = x :=
  front_iff hx (encode_lead c [])

/-- A byte at the front of a character is a blank just if the character is one. So to pass over
blank bytes is to pass over blank characters. -/
theorem isBlank_lead (c : Char) : isBlank (lead c) = isBlankChar c := by
  simp only [isBlank, isBlankChar, lead_eq_iff (x := ' ') (by decide),
    lead_eq_iff (x := '\n') (by decide), lead_eq_iff (x := '\t') (by decide),
    lead_eq_iff (x := '\r') (by decide)]

/-- Passing over blanks leads from the form of a text to that of the text without its blanks in
front, and never fails. -/
theorem skipBlanks_encode (t : List Char) :
    skipBlanks (encode t) = .ok ((), encode (t.dropWhile isBlankChar)) := by
  show Except.ok ((), (encode t).dropWhile isBlank) = _
  congr 2
  induction t with
  | nil => rfl
  | cons c t ih =>
    have hlead := isBlank_lead c
    cases hc : isBlankChar c with
    | true =>
      have hlow : c.toNat < 0x80 := by
        simp only [isBlankChar, Bool.or_eq_true, decide_eq_true_eq] at hc
        rcases hc with ((rfl | rfl) | rfl) | rfl <;> decide
      rw [hc] at hlead
      rw [List.dropWhile_cons_of_pos hc, ← ih, encode_lead, List.dropWhile_cons_of_pos hlead,
        utf8EncodeChar_one hlow]
      rfl
    | false =>
      rw [hc] at hlead
      rw [List.dropWhile_cons_of_neg (ne_true_of_eq_false hc), encode_lead,
        List.dropWhile_cons_of_neg (ne_true_of_eq_false hlead)]

variable {α β : Type} {part : Part} {t : List Char} {s : List UInt8}

/-- A decoder behind the blanks runs on the text without them. -/
theorem skipBlanks_bind (d : Decoder α) :
    (skipBlanks >>= fun _ => d) (encode t) = d (encode (t.dropWhile isBlankChar)) := by
  show (skipBlanks (encode t) >>= fun p => d p.2) = _
  rw [skipBlanks_encode]
  rfl

/-- Looking at what is left changes nothing. -/
theorem get_bind (k : List UInt8 → Decoder α) : (get >>= k) s = k s s :=
  rfl

/-- The next byte is the first one of the next character, which is no blank. It stays in the
text. -/
theorem peekToken_eq_ok {b : UInt8} :
    peekToken part (encode t) = .ok (b, s) ↔
      ∃ c m, t.dropWhile isBlankChar = c :: m ∧ b = lead c ∧ s = encode (c :: m) := by
  unfold peekToken
  rw [skipBlanks_bind, get_bind]
  cases t.dropWhile isBlankChar with
  | nil => exact ⟨nofun, nofun⟩
  | cons c m =>
    rw [encode_lead]
    refine ⟨?_, ?_⟩
    · intro h
      cases h
      exact ⟨c, m, rfl, rfl, (encode_lead c m).symm⟩
    · intro h
      obtain ⟨_, _, heq, rfl, rfl⟩ := h
      cases heq
      rw [encode_lead]
      rfl

/-! ## Choices by the next character -/

/-- What a decoder reads from texts that begin with a given character. -/
def ReadsFront (c : Char) (d : Decoder α) (L : List Token → α → Prop) : Prop :=
  ∀ (t : List Char) (a : α) (s : List UInt8), d (encode (c :: t)) = .ok (a, s) ↔
    ∃ tok toks r, tok.Starts c ∧ Begins (c :: t) (tok :: toks) r ∧ L (tok :: toks) a ∧ s = encode r

/-- What a decoder reads from behind a given character, together with this character. -/
def ReadsBehind (x : Char) (d : Decoder α) (L : List Token → α → Prop) : Prop :=
  ∀ (t : List Char) (a : α) (s : List UInt8), d (encode t) = .ok (a, s) ↔
    ∃ tok toks r, tok.Starts x ∧ Begins (x :: t) (tok :: toks) r ∧ L (tok :: toks) a ∧ s = encode r

variable {c x : Char} {d d' : Decoder α} {k : UInt8 → Decoder α} {L L' : List Token → α → Prop}

/-- **A choice by the next character reads what its branches read,** each from texts that begin with
a character for which it is chosen. The language must not have the empty row of tokens, since at the
end of a text there is no next character to choose by. -/
theorem reads_of_peek (hnil : ∀ a, ¬ L [] a)
    (hk : ∀ c, isBlankChar c = false → ReadsFront c (k (lead c)) L) :
    Reads .tokens (peekToken part >>= k) L := by
  intro t a s
  rw [bind_eq_ok]
  refine ⟨?_, ?_⟩
  · intro h
    obtain ⟨b, s', hpeek, hnext⟩ := h
    obtain ⟨c, m, ht, rfl, rfl⟩ := peekToken_eq_ok.1 hpeek
    have hc : isBlankChar c = false := by
      have hhead := List.head?_dropWhile_not isBlankChar t
      rwa [ht] at hhead
    obtain ⟨tok, toks, r, -, hbegins, hL, rfl⟩ := (hk c hc m a s).1 hnext
    rw [← ht, begins_dropWhile_iff (List.cons_ne_nil tok toks)] at hbegins
    exact ⟨tok :: toks, r, hbegins, hL, rfl⟩
  · intro h
    obtain ⟨toks, r, hbegins, hL, rfl⟩ := h
    cases toks with
    | nil => exact absurd hL (hnil a)
    | cons tok toks =>
      obtain ⟨u, m, ht, hu, hm⟩ := begins_cons_iff.1 hbegins
      obtain ⟨c, v, rfl, hstarts, hc⟩ := hu.front
      have hfront : Begins (c :: (v ++ m)) (tok :: toks) r :=
        begins_cons_iff.2 ⟨c :: v, m, List.dropWhile_cons_of_neg (ne_true_of_eq_false hc), hu, hm⟩
      exact ⟨lead c, encode (c :: (v ++ m)), peekToken_eq_ok.2 ⟨c, v ++ m, ht, rfl, rfl⟩,
        (hk c hc _ a _).2 ⟨tok, toks, r, hstarts, hfront, hL, rfl⟩⟩

/-- A branch for a given character, and the other branches for the other characters. Chains of
conditions are taken apart by it, one character at a time. -/
theorem ReadsFront.ite (hx : x.toNat < 0x80) (h : c = x → ReadsFront x d L)
    (h' : c ≠ x → ReadsFront c d' L) : ReadsFront c (if lead c = ascii x then d else d') L := by
  by_cases hc : c = x
  · subst hc
    rw [if_pos ((lead_eq_iff hx).2 rfl)]
    exact h rfl
  · rw [if_neg (mt (lead_eq_iff hx).1 hc)]
    exact h' hc

/-- A branch that fails reads what the language has for its character, which is nothing: no token of
the language can begin with it. -/
theorem ReadsFront.fail (hd : ∀ s p, d s ≠ .ok p)
    (hL : ∀ tok toks a, tok.Starts c → ¬ L (tok :: toks) a) : ReadsFront c d L := by
  intro t a s
  refine ⟨fun h => absurd h (hd _ _), ?_⟩
  rintro ⟨tok, toks, r, hstarts, -, hLa, -⟩
  exact absurd hLa (hL tok toks a hstarts)

/-- A branch may read any language that agrees on tokens which begin with its character, since no
others stand at the front there. -/
theorem ReadsFront.congr (h : ReadsFront c d L)
    (hiff : ∀ tok toks a, tok.Starts c → (L (tok :: toks) a ↔ L' (tok :: toks) a)) :
    ReadsFront c d L' := by
  intro t a s
  rw [h t a s]
  refine ⟨?_, ?_⟩
  · intro h
    obtain ⟨tok, toks, r, hstarts, hbegins, hL, hs⟩ := h
    exact ⟨tok, toks, r, hstarts, hbegins, (hiff tok toks a hstarts).1 hL, hs⟩
  · intro h
    obtain ⟨tok, toks, r, hstarts, hbegins, hL, hs⟩ := h
    exact ⟨tok, toks, r, hstarts, hbegins, (hiff tok toks a hstarts).2 hL, hs⟩

/-- Behind a character too, the same is read where the languages agree. -/
theorem ReadsBehind.congr (h : ReadsBehind x d L) (hiff : ∀ toks a, L toks a ↔ L' toks a) :
    ReadsBehind x d L' := by
  intro t a s
  rw [h t a s]
  simp only [hiff]

/-- A branch that takes its character and goes on behind it, where the character is still a part of
the first token. -/
theorem ReadsBehind.front (h : ReadsBehind x d L) (hx : x.toNat < 0x80) :
    ReadsFront x (advance >>= fun _ => d) L := by
  intro t a s
  rw [← h t a s, encode_cons_ascii hx]
  rfl

/-- What is read from any text is read from those that begin with a given character. -/
theorem Reads.front (hd : Reads .tokens d L) (hc : isBlankChar c = false) (hnil : ∀ a, ¬ L [] a) :
    ReadsFront c d L := by
  intro t a s
  rw [hd (c :: t) a s]
  refine ⟨?_, ?_⟩
  · intro h
    obtain ⟨toks, r, hbegins, hL, hs⟩ := h
    cases toks with
    | nil => exact absurd hL (hnil a)
    | cons tok toks => exact ⟨tok, toks, r, starts_of_begins hc hbegins, hbegins, hL, hs⟩
  · intro h
    obtain ⟨tok, toks, r, -, hbegins, hL, hs⟩ := h
    exact ⟨tok :: toks, r, hbegins, hL, hs⟩

/-- Behind a character, what two decoders read in a row. It is the rule for `bind` with the
character left out of the language. -/
theorem ReadsBehind.bind {k : α → Decoder β} {M : α → List Token → β → Prop}
    (hd : ReadsBehind x d L) (hk : ∀ a, Reads .tokens (k a) (M a)) :
    ReadsBehind x (d >>= k) fun toks b =>
      ∃ u v a, toks = u ++ v ∧ u ≠ [] ∧ L u a ∧ M a v b := by
  intro t b s
  rw [bind_eq_ok]
  refine ⟨?_, ?_⟩
  · intro h
    obtain ⟨a, s', hfirst, hnext⟩ := h
    obtain ⟨tok, toks, m, hstarts, hbegins, hL, rfl⟩ := (hd t a s').1 hfirst
    obtain ⟨v, r, hbegins', hM, rfl⟩ := (hk a m b s).1 hnext
    exact ⟨tok, toks ++ v, r, hstarts, begins_append_iff.2 ⟨m, hbegins, hbegins'⟩,
      ⟨tok :: toks, v, a, rfl, List.cons_ne_nil tok toks, hL, hM⟩, rfl⟩
  · intro h
    obtain ⟨tok, toks, r, hstarts, hbegins, ⟨u, v, a, heq, hne, hL, hM⟩, rfl⟩ := h
    cases u with
    | nil => exact absurd rfl hne
    | cons tok' u =>
      obtain ⟨rfl, rfl⟩ := List.cons.inj heq
      have hparts : Begins (x :: t) (tok :: u ++ v) r := hbegins
      obtain ⟨m, hu, hv⟩ := begins_append_iff.1 hparts
      exact ⟨a, encode m, (hd t a _).2 ⟨tok, u, m, hstarts, hu, hL, rfl⟩,
        (hk a m b _).2 ⟨v, r, hv, hM, rfl⟩⟩

/-! ## Marks, strings and null -/

/-- A mark stands for itself, and the tokens behind it begin where it ends. -/
theorem begins_mark_iff (hx : x ∈ marks) {r : List Char} {toks : List Token} :
    Begins (x :: t) (.mark x :: toks) r ↔ Begins t toks r := by
  rw [begins_cons_iff, List.dropWhile_cons_of_neg (ne_true_of_eq_false (low_of_mark hx).2)]
  refine ⟨?_, ?_⟩
  · intro h
    obtain ⟨u, m, ht, hu, hm⟩ := h
    cases hu
    obtain ⟨-, rfl⟩ := List.cons.inj ht
    exact hm
  · intro hm
    exact ⟨[x], t, rfl, .mark hx, hm⟩

/-- Behind a mark a decoder reads the rest of what begins with the mark. -/
theorem readsBehind_mark (hx : x ∈ marks) (hd : Reads .tokens d L) :
    ReadsBehind x d fun toks a => ∃ rest, toks = .mark x :: rest ∧ L rest a := by
  intro t a s
  rw [hd t a s]
  refine ⟨?_, ?_⟩
  · intro h
    obtain ⟨toks, r, hbegins, hL, rfl⟩ := h
    exact ⟨.mark x, toks, r, rfl, (begins_mark_iff hx).2 hbegins, ⟨toks, rfl, hL⟩, rfl⟩
  · intro h
    obtain ⟨tok, toks, r, hstarts, hbegins, ⟨rest, heq, hL⟩, rfl⟩ := h
    obtain ⟨rfl, rfl⟩ := List.cons.inj heq
    exact ⟨toks, r, (begins_mark_iff hx).1 hbegins, hL, rfl⟩

/-- A branch that takes a mark and goes on behind it reads the mark and then what the rest reads.
Most choices of a decoder have such branches. -/
theorem readsFront_mark (hx : x ∈ marks) (hd : Reads .tokens d L) :
    ReadsFront x (advance >>= fun _ => d) fun toks a => ∃ rest, toks = .mark x :: rest ∧ L rest a :=
  (readsBehind_mark hx hd).front (low_of_mark hx).1

/-- A mark that is taken is what is read. -/
theorem readsFront_advance (hx : x ∈ marks) :
    ReadsFront x advance fun toks _ => toks = [.mark x] := by
  refine (readsFront_mark hx (Reads.pure ())).congr fun tok toks _ _ => ?_
  refine ⟨?_, ?_⟩
  · intro h
    obtain ⟨_, heq, rfl, -⟩ := h
    exact heq
  · intro heq
    exact ⟨[], heq, rfl, rfl⟩

/-- Behind an opening quote a text is read up to its closing one, and then what follows it. This is
where strings as tokens meet the decoder of strings. -/
theorem readsBehind_string {k : List Char → Decoder β} {M : List Char → List Token → β → Prop}
    (hk : ∀ text, Reads .tokens (k text) (M text)) :
    ReadsBehind '"' (stringLiteral >>= k) fun toks b =>
      ∃ text rest, toks = .string text :: rest ∧ M text rest b := by
  intro t b s
  rw [bind_eq_ok]
  refine ⟨?_, ?_⟩
  · intro h
    obtain ⟨text, s', hstring, hrest⟩ := h
    obtain ⟨w, m, rfl, ⟨u, rfl, hu⟩, rfl⟩ := (reads_stringLiteral t text s').1 hstring
    obtain ⟨toks, r, hbegins, hM, rfl⟩ := (hk text m b s).1 hrest
    refine ⟨.string text, toks, r, rfl, ?_, ⟨text, toks, rfl, hM⟩, rfl⟩
    exact begins_cons_iff.2 ⟨'"' :: (u ++ ['"']), m, rfl, .string hu, hbegins⟩
  · intro h
    obtain ⟨tok, toks, r, -, hbegins, ⟨text, rest, heq, hM⟩, rfl⟩ := h
    obtain ⟨rfl, rfl⟩ := List.cons.inj heq
    obtain ⟨w, m, ht, hw, hm⟩ := begins_cons_iff.1 hbegins
    cases hw with
    | @string u _ _ hu =>
      obtain ⟨-, rfl⟩ := List.cons.inj ht
      have hstring := (reads_stringLiteral _ text _).2 ⟨u ++ ['"'], m, rfl, ⟨u, rfl, hu⟩, rfl⟩
      exact ⟨text, encode m, hstring, (hk text m b _).2 ⟨toks, r, hm, hM, rfl⟩⟩

/-- The next letter of a word has to be there. -/
theorem restOfWord_cons (c : Char) (word : List Char) (b : UInt8) (s : List UInt8) :
    restOfWord (c :: word) (b :: s) =
      if b = ascii c then restOfWord word s else failHere .misspelled s :=
  rfl

/-- A word that has to be spelled out is read from its letters and from nothing else. The induction
is on the letters. -/
theorem reads_restOfWord {word : List Char} (hword : ∀ c ∈ word, c.toNat < 0x80) :
    Reads .chars (restOfWord word) fun u _ => u = word := by
  induction word with
  | nil => exact (Reads.pure ()).congr fun u _ => by simp
  | cons c word ih =>
    have hc := hword c List.mem_cons_self
    have hrest := ih fun d hd => hword d (List.mem_cons_of_mem c hd)
    intro t a s
    refine ⟨?_, ?_⟩
    · intro h
      cases t with
      | nil => cases h
      | cons d t =>
        rw [encode_lead, restOfWord_cons] at h
        split at h
        · next hd =>
          obtain rfl := (lead_eq_iff hc).1 hd
          rw [utf8EncodeChar_one hc] at h
          obtain ⟨u, r, rfl, rfl, rfl⟩ := (hrest t a s).1 h
          exact ⟨d :: u, r, rfl, rfl, rfl⟩
        · cases h
    · intro h
      obtain ⟨u, r, rfl, rfl, rfl⟩ := h
      rw [List.cons_append, encode_cons_ascii hc, restOfWord_cons, if_pos rfl]
      exact (hrest _ a _).2 ⟨word, r, rfl, rfl, rfl⟩

/-- Behind its first letter `null` is read, and then what follows it. -/
theorem readsBehind_null {k : Unit → Decoder β} {M : List Token → β → Prop}
    (hk : Reads .tokens (k ()) M) :
    ReadsBehind 'n' (restOfWord ['u', 'l', 'l'] >>= k) fun toks b =>
      ∃ rest, toks = .null :: rest ∧ M rest b := by
  intro t b s
  have hlow : ∀ c ∈ ['u', 'l', 'l'], c.toNat < 0x80 := by simp
  have hword := reads_restOfWord hlow
  rw [bind_eq_ok]
  refine ⟨?_, ?_⟩
  · intro h
    obtain ⟨_, s', hnull, hrest⟩ := h
    obtain ⟨u, m, rfl, rfl, rfl⟩ := (hword t () s').1 hnull
    obtain ⟨toks, r, hbegins, hM, rfl⟩ := (hk m b s).1 hrest
    refine ⟨.null, toks, r, rfl, ?_, ⟨toks, rfl, hM⟩, rfl⟩
    exact begins_cons_iff.2 ⟨['n', 'u', 'l', 'l'], m, rfl, .null, hbegins⟩
  · intro h
    obtain ⟨tok, toks, r, -, hbegins, ⟨rest, heq, hM⟩, rfl⟩ := h
    obtain ⟨rfl, rfl⟩ := List.cons.inj heq
    obtain ⟨w, m, ht, hw, hm⟩ := begins_cons_iff.1 hbegins
    cases hw with
    | null =>
      obtain ⟨-, rfl⟩ := List.cons.inj ht
      exact ⟨(), encode m, (hword _ () _).2 ⟨['u', 'l', 'l'], m, rfl, rfl, rfl⟩,
        (hk m b _).2 ⟨toks, r, hm, hM, rfl⟩⟩

/-! ## Natural numbers and the end of a text -/

/-- Where only natural numbers are wanted, a number is read if it is one that fits a word. It is the
one token that depends on what stands behind it, since more digits would belong to it. -/
theorem readsFront_natural (hc : isBlankChar c = false) {otherwise : Decoder Number}
    (hother : ∀ s p, otherwise s ≠ .ok p) {k : Number → Decoder β} {f : Nat → β}
    (hnatural : ∀ n, k (.natural n) = pure (f n))
    (hk : ∀ number, (∀ n, number ≠ .natural n) → ∀ s p, k number s ≠ .ok p) :
    ReadsFront c (numberLiteral otherwise >>= k) fun toks b =>
      ∃ n, toks = [.natural n] ∧ n < UInt64.size ∧ b = f n := by
  intro t b s
  rw [bind_eq_ok]
  refine ⟨?_, ?_⟩
  · intro h
    obtain ⟨number, s', hnumber, hrest⟩ := h
    cases number with
    | negative n => exact absurd hrest (hk (.negative n) nofun _ _)
    | floating bits => exact absurd hrest (hk (.floating bits) nofun _ _)
    | natural n =>
      rw [hnatural, pure_eq_ok] at hrest
      obtain ⟨rfl, rfl⟩ := hrest
      obtain ⟨u, r, ht, hu, hlt, hends, rfl⟩ := (natural_of_numberLiteral hother).1 hnumber
      have hbegins : Begins (c :: t) [.natural n] r := by
        rw [begins_cons_iff, List.dropWhile_cons_of_neg (ne_true_of_eq_false hc)]
        exact ⟨u, r, ht, .natural hu hends, .nil⟩
      exact ⟨.natural n, [], r, starts_of_begins hc hbegins, hbegins, ⟨n, rfl, hlt, rfl⟩, rfl⟩
  · intro h
    obtain ⟨tok, toks, r, -, hbegins, ⟨n, heq, hlt, rfl⟩, rfl⟩ := h
    obtain ⟨rfl, rfl⟩ := List.cons.inj heq
    obtain ⟨u, m, ht, hu, hm⟩ := begins_cons_iff.1 hbegins
    obtain rfl := begins_nil_iff.1 hm
    rw [List.dropWhile_cons_of_neg (ne_true_of_eq_false hc)] at ht
    cases hu with
    | natural hu hends =>
      refine ⟨.natural n, encode m, (natural_of_numberLiteral hother).2
        ⟨u, m, ht, hu, hlt, hends, rfl⟩, ?_⟩
      rw [hnatural, pure_eq_ok]
      exact ⟨rfl, rfl⟩

/-- The end of a text is reached where only blanks are left, and nothing is left then. A text is
read as a whole by it. -/
theorem endOfText_eq_ok {p : Unit × List UInt8} :
    endOfText (encode t) = .ok p ↔ Blanks t ∧ p = ((), []) := by
  have hblanks : t.dropWhile isBlankChar = [] ↔ Blanks t := List.dropWhile_eq_nil_iff
  unfold endOfText
  rw [skipBlanks_bind, get_bind, ← hblanks]
  cases t.dropWhile isBlankChar with
  | nil =>
    show Except.ok ((), []) = .ok p ↔ _
    simp [eq_comm]
  | cons c m =>
    rw [encode_lead]
    exact ⟨nofun, fun h => nomatch h.1⟩

end Json

end DeviceReadings
