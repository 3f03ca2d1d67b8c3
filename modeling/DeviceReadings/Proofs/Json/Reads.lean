import DeviceReadings.Json.Decoder
import DeviceReadings.Proofs.Text.Utf8

/-!
# What a decoder reads

A decoder works on bytes, but what it accepts is best said of texts. `Reads C d L` says that on the
bytes of a text `d` comes to a value just if there is something at the front of the text that `L`
allows for this value, and that it leaves the bytes of the rest. What counts as something at the
front is a parameter, a `Cutting`: characters (`Cutting.chars`), or the tokens of a language.

A decoder that is put together reads what its parts read in a row (`Reads.bind`).
-/

namespace DeviceReadings

namespace Json

open Utf8

variable {ι α β : Type}

/-! ## Bytes of a decoder -/

/-- A character of the first 128 at the front of a text is one byte there. -/
theorem encode_cons_ascii {c : Char} (h : c.toNat < 0x80) (t : List Char) :
    encode (c :: t) = ascii c :: encode t :=
  encode_ascii_cons h t

/-- Where a decoder finds the byte of a character, the text has the character, and what is left is
the form of the rest of the text. -/
theorem encode_eq_cons_ascii {c : Char} (h : c.toNat < 0x80) {t : List Char} {s : List UInt8} :
    encode t = ascii c :: s ↔ ∃ m, t = c :: m ∧ s = encode m :=
  encode_eq_ascii_cons h

/-- The first byte of a text is that of a character just if the first character is this one. It
takes that the character is one of the first 128. -/
theorem front_iff {x : Char} (hx : x.toNat < 0x80) {c : Char} {t : List Char} {b : UInt8}
    {s : List UInt8} (h : encode (c :: t) = b :: s) : b = ascii x ↔ c = x := by
  refine ⟨?_, ?_⟩
  · intro h
    obtain rfl := h
    obtain ⟨m, hm, -⟩ := (encode_eq_cons_ascii hx).1 h
    exact (List.cons.inj hm).1
  · intro h
    obtain rfl := h
    rw [encode_cons_ascii hx] at h
    exact (List.cons.inj h).1.symm

/-- A text that is not empty has a first byte, so that a decoder which asks for one finds it. -/
theorem exists_front (c : Char) (t : List Char) : ∃ b s, encode (c :: t) = b :: s :=
  match encode_cons_cases c t with
  | .inl ⟨_, h⟩ => ⟨_, _, h⟩
  | .inr ⟨_, b, s, h, _⟩ => ⟨b, s, h⟩

/-- Decoders compare bytes with the bytes of characters, and this is comparing characters. -/
theorem ascii_inj {c d : Char} (hc : c.toNat < 0x80) (hd : d.toNat < 0x80) :
    ascii c = ascii d ↔ c = d :=
  ⟨eq_of_ofNat_toNat_eq hc hd, congrArg ascii⟩

/-- The byte of a character of the first 128 has the number of the character. -/
theorem toNat_ascii {c : Char} (hc : c.toNat < 0x80) : (ascii c).toNat = c.toNat :=
  toNat_ofNat (by omega)

/-! ## Steps of a decoder -/

/-- A decoder that is followed by another comes to a value just if both do, the second one on what
the first one leaves. Every proof about decoders in a row is taken apart by it. -/
theorem bind_eq_ok {d : Decoder α} {k : α → Decoder β} {s s' : List UInt8} {b : β} :
    (d >>= k) s = .ok (b, s') ↔ ∃ a m, d s = .ok (a, m) ∧ k a m = .ok (b, s') := by
  show (d s >>= fun p => k p.1 p.2) = _ ↔ _
  cases h : d s with
  | error fault => exact ⟨nofun, fun ⟨_, _, hd, _⟩ => nomatch hd⟩
  | ok p =>
    refine ⟨fun hk => ⟨p.1, p.2, rfl, hk⟩, ?_⟩
    rintro ⟨a, m, hd, hk⟩
    obtain rfl := Except.ok.inj hd
    exact hk

/-- Nothing comes of a decoder that is followed by one that always fails, whatever the first one
makes of the text. -/
theorem bind_ne_ok {d : Decoder α} {k : α → Decoder β} (hk : ∀ a s p, k a s ≠ .ok p)
    (s : List UInt8) (p : β × List UInt8) : (d >>= k) s ≠ .ok p := by
  intro h
  obtain ⟨a, m, -, hnext⟩ := bind_eq_ok.1 h
  exact hk a m p hnext

/-- A value that is there already is come to on any text, and nothing of the text is taken. The rule
for `bind` ends with it. -/
theorem pure_eq_ok {a b : α} {s s' : List UInt8} :
    (pure a : Decoder α) s = .ok (b, s') ↔ b = a ∧ s' = s := by
  show Except.ok (a, s) = .ok (b, s') ↔ _
  rw [Except.ok.injEq, Prod.mk.injEq, eq_comm (a := a), eq_comm (a := s)]

/-- A decoder that reports a fault of the place where it stands comes to no value. -/
theorem failHere_ne_ok (cause : Cause) (s : List UInt8) (p : α × List UInt8) :
    failHere cause s ≠ .ok p :=
  nofun

/-- A decoder that reports a fault of the byte behind its place comes to no value. -/
theorem failNext_ne_ok (cause : Cause) (s : List UInt8) (p : α × List UInt8) :
    failNext cause s ≠ .ok p :=
  nofun

/-! ## Fronts of a text -/

/-- A way to take something off the front of a text: nothing leaves the text as it is, and what is
in two parts is taken off part by part. -/
structure Cutting (ι : Type) where
  cuts : List Char → List ι → List Char → Prop
  nil_iff : ∀ {t r : List Char}, cuts t [] r ↔ t = r
  append_iff : ∀ {t r : List Char} {u v : List ι}, cuts t (u ++ v) r ↔ ∃ m, cuts t u m ∧ cuts m v r

/-- Characters are taken off as they stand. -/
def Cutting.chars : Cutting Char where
  cuts t u r := t = u ++ r
  nil_iff := Iff.rfl
  append_iff {t r u v} := by
    refine ⟨fun h => ⟨v ++ r, by rw [h, List.append_assoc], rfl⟩, ?_⟩
    rintro ⟨m, rfl, rfl⟩
    rw [List.append_assoc]

/-- On the bytes of a text the decoder comes to a value just if the language has something for it
at the front of the text, and leaves the rest. -/
def Reads (C : Cutting ι) (d : Decoder α) (L : List ι → α → Prop) : Prop :=
  ∀ (t : List Char) (a : α) (s : List UInt8),
    d (encode t) = .ok (a, s) ↔ ∃ u r, C.cuts t u r ∧ L u a ∧ s = encode r

namespace Reads

variable {C : Cutting ι} {d : Decoder α} {k : α → Decoder β} {L L' : List ι → α → Prop}
  {M : α → List ι → β → Prop}

/-- The same is read where the languages agree. Languages are put together mechanically, and this
brings them into the form of the grammar. -/
theorem congr (h : Reads C d L) (hiff : ∀ u a, L u a ↔ L' u a) : Reads C d L' := by
  intro t a s
  rw [h t a s]
  simp only [hiff]

/-- A value that is there already is read from nothing, which is the only front of the text that is
taken. -/
theorem pure (a : α) : Reads C (pure a) fun u b => u = [] ∧ b = a := by
  intro t b s
  rw [pure_eq_ok]
  refine ⟨?_, ?_⟩
  · intro h
    obtain ⟨rfl, rfl⟩ := h
    exact ⟨[], t, C.nil_iff.2 rfl, ⟨rfl, rfl⟩, rfl⟩
  · intro h
    obtain ⟨u, r, hcut, ⟨rfl, rfl⟩, rfl⟩ := h
    exact ⟨rfl, by rw [C.nil_iff.1 hcut]⟩

/-- A decoder that always fails reads nothing, and so it reads the empty language. -/
theorem fail (h : ∀ s p, d s ≠ .ok p) : Reads C d fun _ _ => False := by
  intro t a s
  exact ⟨fun hd => absurd hd (h _ _), fun ⟨_, _, _, hL, _⟩ => hL.elim⟩

/-- What two decoders read in a row: a front of the text for the first one and behind it one for the
second, which may depend on the value of the first. -/
theorem bind (hd : Reads C d L) (hk : ∀ a, Reads C (k a) (M a)) :
    Reads C (d >>= k) fun w b => ∃ u v a, w = u ++ v ∧ L u a ∧ M a v b := by
  intro t b s
  rw [bind_eq_ok]
  refine ⟨?_, ?_⟩
  · intro h
    obtain ⟨a, m, hfirst, hnext⟩ := h
    obtain ⟨u, t', hcut, hL, rfl⟩ := (hd t a m).1 hfirst
    obtain ⟨v, r, hcut', hM, rfl⟩ := (hk a t' b s).1 hnext
    exact ⟨u ++ v, r, C.append_iff.2 ⟨t', hcut, hcut'⟩, ⟨u, v, a, rfl, hL, hM⟩, rfl⟩
  · intro h
    obtain ⟨w, r, hcut, ⟨u, v, a, rfl, hL, hM⟩, rfl⟩ := h
    obtain ⟨t', hcut, hcut'⟩ := C.append_iff.1 hcut
    exact ⟨a, encode t', (hd t a _).2 ⟨u, t', hcut, hL, rfl⟩,
      (hk a t' b _).2 ⟨v, r, hcut', hM, rfl⟩⟩

/-- A choice reads what the decoder chosen reads. The condition is known where the language is
stated, and so it becomes a part of the language. -/
theorem ite {p : Prop} [Decidable p] {d' : Decoder α} (h : p → Reads C d L)
    (h' : ¬ p → Reads C d' L') :
    Reads C (if p then d else d') fun u a => p ∧ L u a ∨ ¬ p ∧ L' u a := by
  by_cases hp : p
  · rw [if_pos hp]
    exact (h hp).congr fun u a => by simp [hp]
  · rw [if_neg hp]
    exact (h' hp).congr fun u a => by simp [hp]

/-- What is read does not change when the value is worked on. The language is that of the decoder,
with the values worked on. -/
theorem map (hd : Reads C d L) (f : α → β) :
    Reads C (d >>= fun a => Pure.pure (f a)) fun u b => ∃ a, L u a ∧ b = f a := by
  refine (hd.bind fun a => Reads.pure (f a)).congr fun u b => ?_
  refine ⟨?_, ?_⟩
  · intro h
    obtain ⟨u, v, a, rfl, hL, rfl, rfl⟩ := h
    exact ⟨a, by rwa [List.append_nil], rfl⟩
  · intro h
    obtain ⟨a, hL, rfl⟩ := h
    exact ⟨u, [], a, (List.append_nil u).symm, hL, rfl, rfl⟩

end Reads

end Json

end DeviceReadings
