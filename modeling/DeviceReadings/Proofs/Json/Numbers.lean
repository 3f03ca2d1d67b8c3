import DeviceReadings.Json.NumberLiteral
import DeviceReadings.Proofs.Json.Reads
import Mathlib.Data.List.TakeWhile

/-!
# Numerals

Which numbers are natural numbers of 64 bits: those that are written as a `Numeral`, digits without
a leading zero, with nothing behind them that goes on with the number (`Ends`), and that are small
enough (`natural_of_numberLiteral`). A sign, a fraction, an exponent or too many digits lead to a
number of another kind.
-/

namespace DeviceReadings

namespace Json

open Utf8

/-! ## The grammar -/

/-- The value of some digits that follow the value `n`. -/
def decimalValue (n : Nat) (digits : List Char) : Nat :=
  digits.foldl (fun n c => n * 10 + (c.toNat - 0x30)) n

/-- Digits without a leading zero, and their value. -/
structure Numeral (u : List Char) (n : Nat) : Prop where
  ne_nil : u ≠ []
  digits : ∀ c ∈ u, c.isDigit = true
  leading : u.head? = some '0' → u = ['0']
  value_eq : n = decimalValue 0 u

/-- Nothing that goes on with a number stands at the front: no digit, and neither a fraction nor an
exponent. -/
def Ends (t : List Char) : Prop :=
  ∀ c ∈ t.head?, c.isDigit = false ∧ c ≠ '.' ∧ c ≠ 'e' ∧ c ≠ 'E'

/-- Where a number ends no digit stands. For the digits in front of it this means that they are all
the digits there are. -/
theorem Ends.not_digit {t : List Char} (h : Ends t) : t.head?.any Char.isDigit = false := by
  cases t with
  | nil => rfl
  | cons c t => exact (h c rfl).1

/-! ## Floating point -/

/-- A decoder that never comes to a natural number. -/
def NeverNatural (d : Decoder Number) : Prop :=
  ∀ ⦃s n s'⦄, d s ≠ .ok (.natural n, s')

/-- A number that is worked out in floating point is not taken for a natural one, even if it is
whole. -/
theorem neverNatural_floating (minus : Bool) (n : Nat) (e : Int) :
    NeverNatural (floating minus n e) := by
  intro s m s' h
  unfold floating at h
  cases hx : scaled (Float.ofScientific n false 0) e with
  | none => rw [hx] at h; cases h
  | some x => rw [hx] at h; cases h

/-- With a value in its exponent a number is worked out in floating point, or it is a fault. It is
no natural number even where the exponent is zero. -/
theorem neverNatural_exponentValue (minus : Bool) (n : Nat) (e : Int) (down : Bool) :
    NeverNatural (exponentValue minus n e down) := by
  intro s m s' h
  unfold exponentValue at h
  split at h
  · cases h
  · split at h
    · split at h
      · exact neverNatural_floating _ _ _ h
      · split at h
        · cases h
        · exact neverNatural_floating _ _ _ h
    · cases h

/-- The sign of an exponent makes no difference to that. -/
theorem neverNatural_exponentPart (minus : Bool) (n : Nat) (e : Int) :
    NeverNatural (exponentPart minus n e) := by
  intro s m s' h
  unfold exponentPart at h
  split at h
  · split at h
    · exact neverNatural_exponentValue _ _ _ _ h
    · split at h
      · exact neverNatural_exponentValue _ _ _ _ h
      · exact neverNatural_exponentValue _ _ _ _ h
  · exact neverNatural_exponentValue _ _ _ _ h

/-- Digits that are left out because they do not fit count as an exponent, with or without a further
one in the text. -/
theorem neverNatural_exponentOrEnd (minus : Bool) (n : Nat) (e : Int) :
    NeverNatural (exponentOrEnd minus n e) := by
  intro s m s' h
  unfold exponentOrEnd at h
  split at h
  · split at h
    · exact neverNatural_exponentPart _ _ _ h
    · exact neverNatural_floating _ _ _ h
  · exact neverNatural_floating _ _ _ h

/-- With a fraction a number is never natural, not even if the fraction is zero. -/
theorem neverNatural_fractionPart (minus : Bool) (n : Nat) (e : Int) :
    NeverNatural (fractionPart minus n e) := by
  intro s m s' h
  unfold fractionPart at h
  split at h
  split at h
  · exact neverNatural_exponentOrEnd _ _ _ h
  · split at h
    · cases h
    · exact neverNatural_exponentOrEnd _ _ _ h

/-! ## The end of a number -/

/-- The byte of a character is a digit if the character is one. -/
theorem isDigit_ascii {c : Char} (h : c.toNat < 0x80) : Json.isDigit (ascii c) = c.isDigit := by
  rw [Json.isDigit, toNat_ascii h]
  rfl

/-- Digits are of the first 128 characters. -/
theorem low_of_isDigit {c : Char} (h : c.isDigit = true) : c.toNat < 0x80 := by
  have hle : c.toNat ≤ 0x39 := by
    simp only [Char.isDigit, Bool.and_eq_true, decide_eq_true_eq] at h
    exact h.2
  omega

/-- The value of a digit, by its byte, is how far its character stands behind `0`. -/
theorem digitValue_ascii {c : Char} (h : c.toNat < 0x80) :
    digitValue (ascii c) = c.toNat - 0x30 := by
  rw [digitValue, toNat_ascii h]

/-- The first byte of a text is a digit just if the first character is. No byte of a longer
character is one. -/
theorem isDigit_front {c : Char} {t : List Char} {b : UInt8} {s : List UInt8}
    (h : encode (c :: t) = b :: s) : Json.isDigit b = c.isDigit := by
  rcases encode_cons_cases c t with ⟨hlow, hc⟩ | ⟨hhigh, b', s', hc, hb⟩
  · obtain ⟨rfl, -⟩ := List.cons.inj (hc.symm.trans h)
    exact isDigit_ascii hlow
  · obtain ⟨rfl, -⟩ := List.cons.inj (hc.symm.trans h)
    have hchar : c.isDigit = false := by
      by_contra hdigit
      have hlow := low_of_isDigit (eq_true_of_ne_false hdigit)
      omega
    rw [hchar]
    simp only [Json.isDigit, Bool.and_eq_false_iff, decide_eq_false_iff_not]
    omega

/-- Whether a digit comes next can be seen from the next character, and at the end of the text none
comes. -/
theorem startsWithDigit_encode (t : List Char) :
    startsWithDigit (encode t) = t.head?.any Char.isDigit := by
  cases t with
  | nil => rfl
  | cons c t =>
    obtain ⟨b, s, h⟩ := exists_front c t
    rw [h]
    exact isDigit_front h

/-- What follows the digits of a number: a point, the mark of an exponent, or the end of the number.
Without either, all digits must have fitted for the number to be whole. -/
theorem numberTail_cons (minus : Bool) (n e : Nat) (b : UInt8) (s : List UInt8) :
    numberTail minus n e (b :: s) =
      if b = ascii '.' then fractionPart minus n e s
      else if isExponentMark b then exponentPart minus n e s
      else if e = 0 then integral minus n (b :: s) else floating minus n e (b :: s) :=
  rfl

/-- With a sign, or with digits that did not fit, a number is never a natural one, whatever follows
its digits. -/
theorem neverNatural_numberTail {minus : Bool} {n e : Nat} (h : minus = true ∨ e ≠ 0) :
    NeverNatural (numberTail minus n e) := by
  have hplain : NeverNatural fun s =>
      if e = 0 then integral minus n s else floating minus n e s := by
    intro s m s' heq
    simp only at heq
    split at heq
    · next he =>
      obtain rfl := h.resolve_right (absurd he)
      rw [integral, if_pos rfl] at heq
      split at heq
      · exact neverNatural_floating _ _ _ heq
      · cases heq
    · exact neverNatural_floating _ _ _ heq
  intro s m s' heq
  cases s with
  | nil => exact hplain heq
  | cons b s =>
    rw [numberTail_cons] at heq
    split at heq
    · exact neverNatural_fractionPart _ _ _ heq
    · split at heq
      · exact neverNatural_exponentPart _ _ _ heq
      · exact hplain heq

/-- Without a sign and with all its digits, a number is the natural number of its digits just if it
ends behind them. A point or the mark of an exponent takes the number elsewhere. -/
theorem natural_of_numberTail {n m : Nat} {t : List Char} {s : List UInt8}
    (ht : t.head?.any Char.isDigit = false) :
    numberTail false n 0 (encode t) = .ok (.natural m, s) ↔ m = n ∧ Ends t ∧ s = encode t := by
  have hplain : integral false n (encode t) = .ok (.natural m, s) ↔ m = n ∧ s = encode t := by
    show Except.ok (Number.natural n, encode t) = .ok (.natural m, s) ↔ _
    simp [eq_comm]
  cases t with
  | nil =>
    refine Iff.trans hplain ?_
    exact ⟨fun ⟨hm, hs⟩ => ⟨hm, nofun, hs⟩, fun ⟨hm, _, hs⟩ => ⟨hm, hs⟩⟩
  | cons c t =>
    obtain ⟨b, rest, hb⟩ := exists_front c t
    have hdot := front_iff (x := '.') (by decide) hb
    have hsmall := front_iff (x := 'e') (by decide) hb
    have hlarge := front_iff (x := 'E') (by decide) hb
    have hends : Ends (c :: t) ↔ c ≠ '.' ∧ c ≠ 'e' ∧ c ≠ 'E' := by
      simp only [List.head?_cons, Option.any_some] at ht
      simp [Ends, ht]
    rw [hb] at hplain ⊢
    rw [numberTail_cons, hends]
    by_cases hpoint : b = ascii '.'
    · rw [if_pos hpoint]
      exact ⟨fun h => (neverNatural_fractionPart _ _ _ h).elim,
        fun h => absurd (hdot.1 hpoint) h.2.1.1⟩
    by_cases hmark : isExponentMark b = true
    · rw [if_neg hpoint, if_pos hmark]
      simp only [isExponentMark, Bool.or_eq_true, decide_eq_true_eq] at hmark
      refine ⟨fun h => (neverNatural_exponentPart _ _ _ h).elim, fun h => ?_⟩
      rcases hmark with hmark | hmark
      · exact absurd (hsmall.1 hmark) h.2.1.2.1
      · exact absurd (hlarge.1 hmark) h.2.1.2.2
    · rw [if_neg hpoint, if_neg hmark, if_pos rfl, hplain]
      simp only [isExponentMark, Bool.or_eq_true, decide_eq_true_eq, not_or] at hmark
      have hfree : c ≠ '.' ∧ c ≠ 'e' ∧ c ≠ 'E' :=
        ⟨mt hdot.2 hpoint, mt hsmall.2 hmark.1, mt hlarge.2 hmark.2⟩
      exact ⟨fun ⟨hm, hs⟩ => ⟨hm, hfree, hs⟩, fun ⟨hm, _, hs⟩ => ⟨hm, hs⟩⟩

/-! ## The digits of a number -/

/-- Digits are worth what they are worth one after the other, each one ten times what stands before
it. -/
theorem decimalValue_cons (n : Nat) (c : Char) (digits : List Char) :
    decimalValue n (c :: digits) = decimalValue (n * 10 + (c.toNat - 0x30)) digits := by
  unfold decimalValue
  rw [List.foldl_cons]

/-- The value does not become smaller with more digits, and so it does not come back below a bound
once it is beyond. -/
theorem le_decimalValue (n : Nat) (digits : List Char) : n ≤ decimalValue n digits := by
  induction digits generalizing n with
  | nil => exact Nat.le_refl n
  | cons c digits ih =>
    have hnext := ih (n * 10 + (c.toNat - 0x30))
    rw [decimalValue_cons]
    exact Nat.le_trans (by omega) hnext

/-- The next digit is taken if the number with it still fits a word. This is the step of the
inductions over digits. -/
theorem takeFitting_cons (n count : Nat) (b : UInt8) (s : List UInt8) :
    takeFitting n count (b :: s) =
      if Json.isDigit b && n * 10 + digitValue b < UInt64.size then
        takeFitting (n * 10 + digitValue b) (count + 1) s
      else (n, count, b :: s) := by
  rw [takeFitting]

/-- Digits whose value fits a word are all taken, and they come to their value. Each front of them
has a smaller value and fits too, so that the loop does not stop before the end. -/
theorem takeFitting_fits {digits r : List Char} (hdigits : ∀ c ∈ digits, c.isDigit = true)
    (hr : r.head?.any Char.isDigit = false) {n : Nat} (hn : decimalValue n digits < UInt64.size)
    (count : Nat) :
    takeFitting n count (encode (digits ++ r)) =
      (decimalValue n digits, count + digits.length, encode r) := by
  induction digits generalizing n count with
  | nil =>
    cases r with
    | nil => rfl
    | cons c r =>
      obtain ⟨b, rest, hb⟩ := exists_front c r
      rw [List.nil_append, hb, takeFitting_cons, isDigit_front hb]
      rw [List.head?_cons, Option.any_some] at hr
      simp [hr, decimalValue]
  | cons c digits ih =>
    have hc := hdigits c List.mem_cons_self
    have hlow := low_of_isDigit hc
    have hle := le_decimalValue (n * 10 + (c.toNat - 0x30)) digits
    rw [decimalValue_cons] at hn
    rw [List.cons_append, encode_cons_ascii hlow, takeFitting_cons, isDigit_ascii hlow, hc,
      digitValue_ascii hlow, if_pos (by simp; omega),
      ih (fun d h => hdigits d (List.mem_cons_of_mem c h)) hn, List.length_cons, decimalValue_cons]
    simp only [Prod.mk.injEq, true_and, and_true]
    omega

/-- Of digits whose value does not fit a word some are left. They are what makes the number one in
floating point. -/
theorem takeFitting_overflow {digits : List Char} (hdigits : ∀ c ∈ digits, c.isDigit = true)
    (r : List Char) {n : Nat} (hn : n < UInt64.size) (hover : UInt64.size ≤ decimalValue n digits)
    (count : Nat) :
    startsWithDigit (takeFitting n count (encode (digits ++ r))).2.2 = true := by
  induction digits generalizing n count with
  | nil => exact absurd hover (Nat.not_le_of_lt hn)
  | cons c digits ih =>
    have hc := hdigits c List.mem_cons_self
    have hlow := low_of_isDigit hc
    rw [decimalValue_cons] at hover
    rw [List.cons_append, encode_cons_ascii hlow, takeFitting_cons, isDigit_ascii hlow, hc,
      digitValue_ascii hlow]
    by_cases hnext : n * 10 + (c.toNat - 0x30) < UInt64.size
    · rw [if_pos (by simpa using hnext)]
      exact ih (fun d h => hdigits d (List.mem_cons_of_mem c h)) hnext hover _
    · rw [if_neg (by simpa using hnext)]
      exact (isDigit_ascii hlow).trans hc

/-! ## Whole numbers -/

/-- A number without its sign begins with a single zero, or with another digit and as many more as
fit. The digits left over are only counted. -/
theorem unsignedNumber_cons (minus : Bool) (b : UInt8) (s : List UInt8) :
    unsignedNumber minus (b :: s) =
      if b = ascii '0' then
        if startsWithDigit s then failNext .invalidNumber s else numberTail minus 0 0 s
      else if Json.isDigit b then
        match takeFitting (digitValue b) 0 s with
        | (n, _, s') =>
          numberTail minus n (s'.takeWhile Json.isDigit).length (s'.dropWhile Json.isDigit)
      else failHere .invalidNumber s :=
  rfl

/-- After a minus sign no number is a natural one, not even zero. -/
theorem neverNatural_unsignedNumber : NeverNatural (unsignedNumber true) := by
  intro s m s' h
  cases s with
  | nil => cases h
  | cons b s =>
    rw [unsignedNumber_cons] at h
    split at h
    · split at h
      · cases h
      · exact neverNatural_numberTail (.inl rfl) h
    · split at h
      · exact neverNatural_numberTail (.inl rfl) h
      · cases h

/-- What does not begin with a digit has no digits at the front, and dropping them drops nothing.
That is how the end of a number shows. -/
theorem span_digits_of_not_starts {s : List UInt8} (h : startsWithDigit s = false) :
    s.takeWhile Json.isDigit = [] ∧ s.dropWhile Json.isDigit = s := by
  cases s with
  | nil => exact ⟨rfl, rfl⟩
  | cons b s =>
    have hb : ¬ Json.isDigit b = true := ne_true_of_eq_false h
    exact ⟨List.takeWhile_cons_of_neg hb, List.dropWhile_cons_of_neg hb⟩

/-- What begins with a digit has digits at the front. Digits that are left over are counted, and
this count is not zero. -/
theorem length_digits_of_starts {s : List UInt8} (h : startsWithDigit s = true) :
    (s.takeWhile Json.isDigit).length ≠ 0 := by
  cases s with
  | nil => cases h
  | cons b s =>
    have hb : Json.isDigit b = true := h
    rw [List.takeWhile_cons_of_pos hb, List.length_cons]
    exact Nat.succ_ne_zero _

/-- Behind a leading digit that is no zero, the digits are those of a numeral, whose value begins
with the leading one. -/
theorem numeral_cons_iff {c : Char} {digits : List Char} {m : Nat} (hc : c.isDigit = true)
    (hzero : c ≠ '0') (hdigits : ∀ d ∈ digits, d.isDigit = true) :
    Numeral (c :: digits) m ↔ m = decimalValue (c.toNat - 0x30) digits := by
  have hvalue : decimalValue 0 (c :: digits) = decimalValue (c.toNat - 0x30) digits := by
    rw [decimalValue_cons, Nat.zero_mul, Nat.zero_add]
  rw [← hvalue]
  refine ⟨Numeral.value_eq, fun h => ⟨List.cons_ne_nil c digits, ?_, ?_, h⟩⟩
  · intro d hd
    rcases List.mem_cons.1 hd with rfl | hd
    · exact hc
    · exact hdigits d hd
  · intro h
    exact absurd (Option.some.inj h) hzero

/-- A number that begins with a digit is a natural number just if its digits are a numeral, are
small enough, and are all of it. The proof follows the two ways to begin: a zero has to stand alone,
and other digits are read until they do not fit. -/
theorem natural_of_unsignedNumber {c : Char} {digits r : List Char} (hc : c.isDigit = true)
    (hdigits : ∀ d ∈ digits, d.isDigit = true) (hr : r.head?.any Char.isDigit = false) {m : Nat}
    {s : List UInt8} :
    unsignedNumber false (encode (c :: digits ++ r)) = .ok (.natural m, s) ↔
      Numeral (c :: digits) m ∧ m < UInt64.size ∧ Ends r ∧ s = encode r := by
  have hlow := low_of_isDigit hc
  rw [List.cons_append, encode_cons_ascii hlow, unsignedNumber_cons, isDigit_ascii hlow, hc,
    digitValue_ascii hlow]
  by_cases hzero : c = '0'
  · subst hzero
    rw [if_pos rfl, startsWithDigit_encode]
    cases digits with
    | nil =>
      rw [List.nil_append, hr, if_neg Bool.false_ne_true, natural_of_numberTail hr]
      have hnumeral : Numeral ['0'] m ↔ m = 0 := by
        refine ⟨Numeral.value_eq, fun h => ⟨nofun, fun d hd => ?_, fun _ => rfl, h⟩⟩
        rwa [List.mem_singleton.1 hd]
      rw [hnumeral]
      refine ⟨?_, ?_⟩
      · intro h
        obtain ⟨rfl, h⟩ := h
        exact ⟨rfl, by decide, h⟩
      · intro h
        obtain ⟨rfl, -, h⟩ := h
        exact ⟨rfl, h⟩
    | cons d digits =>
      have hd := hdigits d List.mem_cons_self
      rw [List.cons_append, List.head?_cons, Option.any_some, hd, if_pos rfl]
      exact ⟨nofun, fun h => absurd (h.1.leading rfl) (by simp)⟩
  -- The first digit is not a zero, and so any number of digits may follow.
  rw [if_neg (by rwa [ascii_inj hlow (by decide)]), if_pos rfl, numeral_cons_iff hc hzero hdigits]
  by_cases hfits : decimalValue (c.toNat - 0x30) digits < UInt64.size
  · rw [takeFitting_fits hdigits hr hfits]
    obtain ⟨htake, hdrop⟩ := span_digits_of_not_starts (by rwa [startsWithDigit_encode])
    simp only [htake, hdrop, List.length_nil, natural_of_numberTail hr]
    refine ⟨?_, ?_⟩
    · intro h
      obtain ⟨rfl, h⟩ := h
      exact ⟨rfl, hfits, h⟩
    · intro h
      obtain ⟨rfl, -, h⟩ := h
      exact ⟨rfl, h⟩
  · have hfirst : c.toNat - 0x30 < UInt64.size := by
      have hsize : UInt64.size = 18446744073709551616 := rfl
      omega
    have hleft := takeFitting_overflow hdigits r hfirst (Nat.le_of_not_lt hfits) 0
    have hsome := length_digits_of_starts hleft
    exact ⟨fun h => (neverNatural_numberTail (.inr hsome) h).elim,
      fun h => absurd h.2.1 (by rwa [h.1])⟩

/-- A number begins with a minus sign or with a digit. Everything else is left to another
decoder. -/
theorem numberLiteral_cons (otherwise : Decoder Number) (b : UInt8) (s : List UInt8) :
    numberLiteral otherwise (b :: s) =
      if b = ascii '-' then unsignedNumber true s
      else if Json.isDigit b then unsignedNumber false (b :: s)
      else otherwise (b :: s) :=
  rfl

/-- **The natural numbers among the numbers are the numerals below `2 ^ 64` that end behind their
digits.** -/
theorem natural_of_numberLiteral {otherwise : Decoder Number} (h : ∀ s p, otherwise s ≠ .ok p)
    {t : List Char} {n : Nat} {s : List UInt8} :
    numberLiteral otherwise (encode t) = .ok (.natural n, s) ↔
      ∃ u r, t = u ++ r ∧ Numeral u n ∧ n < UInt64.size ∧ Ends r ∧ s = encode r := by
  cases t with
  | nil =>
    refine ⟨fun hn => absurd hn (h _ _), ?_⟩
    rintro ⟨u, r, ht, hu, -⟩
    exact absurd (List.append_eq_nil_iff.1 ht.symm).1 hu.ne_nil
  | cons c t =>
    obtain ⟨b, rest, hb⟩ := exists_front c t
    have hminus := front_iff (x := '-') (by decide) hb
    rw [hb, numberLiteral_cons, isDigit_front hb]
    by_cases hdigit : c.isDigit = true
    · have hnot : c ≠ '-' := by
        rintro rfl
        exact absurd hdigit (by decide)
      rw [if_neg (mt hminus.1 hnot), if_pos hdigit, ← hb]
      -- A numeral at the front has all the digits there, since no digit may follow it.
      have hspan : c :: t = c :: t.takeWhile Char.isDigit ++ t.dropWhile Char.isDigit := by
        rw [List.cons_append, List.takeWhile_append_dropWhile]
      have hall : ∀ d ∈ t.takeWhile Char.isDigit, d.isDigit = true := fun d =>
        List.mem_takeWhile_imp
      have hafter : (t.dropWhile Char.isDigit).head?.any Char.isDigit = false := by
        have hhead := List.head?_dropWhile_not Char.isDigit t
        cases hd : (t.dropWhile Char.isDigit).head? with
        | none => rfl
        | some d => rwa [hd] at hhead
      refine ⟨?_, ?_⟩
      · intro hn
        rw [hspan] at hn
        obtain ⟨hu, hlt, hends, hs⟩ := (natural_of_unsignedNumber hdigit hall hafter).1 hn
        exact ⟨_, _, hspan, hu, hlt, hends, hs⟩
      · intro h
        obtain ⟨u, r, ht, hu, hlt, hends, hs⟩ := h
        cases u with
        | nil => exact absurd rfl hu.ne_nil
        | cons d digits =>
          obtain ⟨rfl, rfl⟩ := List.cons.inj ht
          have hdigits : ∀ e ∈ digits, e.isDigit = true := fun e he =>
            hu.digits e (List.mem_cons_of_mem c he)
          exact (natural_of_unsignedNumber hdigit hdigits hends.not_digit).2 ⟨hu, hlt, hends, hs⟩
    · have hno : ¬ ∃ u r, c :: t = u ++ r ∧ Numeral u n ∧ n < UInt64.size ∧ Ends r ∧
          s = encode r := by
        rintro ⟨u, r, ht, hu, -⟩
        cases u with
        | nil => exact absurd rfl hu.ne_nil
        | cons d digits =>
          obtain ⟨rfl, -⟩ := List.cons.inj ht
          exact hdigit (hu.digits c List.mem_cons_self)
      rw [if_neg hdigit]
      refine ⟨fun hn => ?_, fun hn => absurd hn hno⟩
      split at hn
      · exact (neverNatural_unsignedNumber hn).elim
      · exact absurd hn (h _ _)

end Json

end DeviceReadings
