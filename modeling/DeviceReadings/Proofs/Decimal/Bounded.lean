import DeviceReadings.Decimal.Bounded
import DeviceReadings.Log.Event

/-!
# Numbers within bounds are read as they are written

A number in decimal is read back if it lies within the bounds, and refused if it does not
(`readNat_decimal`, `readInt_decimal`). Digits are judged one by one, but what has been read never
shrinks, and so a number is found too large just if it is too large as a whole.
-/

namespace DeviceReadings

/-- A number in decimal: its digits, behind a dash if it is negative. -/
theorem toList_decimal_of_neg {n : Int} (h : n < 0) :
    (decimal n).toList = '-' :: Nat.toDigits 10 n.natAbs := by
  rw [decimal, if_pos h, String.toList_append, Nat.toList_repr]
  rfl

/-- A number in decimal that is not negative: its digits alone, without a sign. -/
theorem toList_decimal_of_nonneg {n : Int} (h : 0 ≤ n) :
    (decimal n).toList = Nat.toDigits 10 n.natAbs := by
  rw [decimal, if_neg (Int.not_lt.2 h), Nat.toList_repr]

/-- The digits of a number begin with a digit, and all of them are digits. No number is written as
nothing. -/
theorem exists_toDigits_eq_cons (n : Nat) :
    ∃ c digits, Nat.toDigits 10 n = c :: digits ∧ ∀ d ∈ c :: digits, d.isDigit = true := by
  cases hdigits : Nat.toDigits 10 n with
  | nil => exact absurd hdigits Nat.toDigits_ne_nil
  | cons c digits =>
    refine ⟨c, digits, rfl, fun d hd => ?_⟩
    rw [← hdigits] at hd
    exact Nat.isDigit_of_mem_toDigits (by omega) (by omega) hd

/-- A sign is no digit, whichever sign it is. Readers that look at the first character for a sign
find none in front of digits. -/
theorem ne_of_isDigit {c sign : Char} (h : c.isDigit = true) (hsign : sign.isDigit = false) :
    c ≠ sign := by
  rintro rfl
  rw [h] at hsign
  cases hsign

/-- A number in decimal begins with a digit, or with a dash and a digit behind it. -/
theorem toList_decimal_cases (n : Int) :
    0 ≤ n ∧ (decimal n).toList.head? ≠ some '-' ∨
      n < 0 ∧ ∃ d digits, (decimal n).toList = '-' :: d :: digits ∧
        ∀ x ∈ d :: digits, x.isDigit = true := by
  obtain ⟨d, digits, hcons, hdigits⟩ := exists_toDigits_eq_cons n.natAbs
  rcases Int.lt_or_le n 0 with hneg | hnonneg
  · exact .inr ⟨hneg, d, digits, by rw [toList_decimal_of_neg hneg, hcons], hdigits⟩
  · refine .inl ⟨hnonneg, fun heq => ?_⟩
    rw [toList_decimal_of_nonneg hnonneg, hcons] at heq
    exact ne_of_isDigit (hdigits d List.mem_cons_self) rfl (Option.some.inj heq)

namespace Bounded

/-! ## Digits -/

/-- What has been read does not shrink when more digits come. A bound that is passed stays passed,
and it does not matter at which digit this is noticed. -/
theorem le_ofDigitChars (digits : List Char) (acc : Nat) :
    acc ≤ Nat.ofDigitChars 10 digits acc := by
  induction digits generalizing acc with
  | nil => exact Nat.le_refl acc
  | cons c digits ih =>
    rw [Nat.ofDigitChars_cons]
    exact Nat.le_trans (by omega) (ih _)

/-- Digits are read as their value, unless this is beyond the bound. The reader gives up at the
first digit that takes it beyond, and by `le_ofDigitChars` this is when the whole is beyond. -/
theorem readDigits_of_isDigit {limit : Nat} (beyond : Fault) {digits : List Char}
    (hdigits : ∀ c ∈ digits, c.isDigit = true) {acc : Nat} (hacc : acc ≤ limit) :
    readDigits limit beyond acc digits =
      if Nat.ofDigitChars 10 digits acc ≤ limit then .ok (Nat.ofDigitChars 10 digits acc)
      else .error beyond := by
  induction digits generalizing acc with
  | nil => exact (if_pos hacc).symm
  | cons c digits ih =>
    obtain ⟨hc, hrest⟩ := List.forall_mem_cons.1 hdigits
    have hnext : acc * 10 + (c.toNat - 48) = 10 * acc + (c.toNat - '0'.toNat) := by
      rw [Nat.mul_comm]
      rfl
    rw [readDigits, if_pos hc, Nat.ofDigitChars_cons, hnext]
    by_cases hfits : 10 * acc + (c.toNat - '0'.toNat) ≤ limit
    · rw [if_pos hfits, ih hrest hfits]
    · rw [if_neg hfits, if_neg fun hle => hfits (Nat.le_trans (le_ofDigitChars digits _) hle)]

/-- The digits of a number are read as the number, unless this is beyond the bound. -/
theorem readDigits_toDigits (limit : Nat) (beyond : Fault) (n : Nat) :
    readDigits limit beyond 0 (Nat.toDigits 10 n) =
      if n ≤ limit then .ok n else .error beyond := by
  have hdigits : ∀ c ∈ Nat.toDigits 10 n, c.isDigit = true :=
    fun c hc => Nat.isDigit_of_mem_toDigits (by omega) (by omega) hc
  rw [readDigits_of_isDigit beyond hdigits (Nat.zero_le limit),
    Nat.ofDigitChars_toDigits (by omega) (by omega)]

/-! ## Natural numbers -/

/-- Digits without a sign are read as digits, since the first of them is no plus sign. -/
theorem readNat_toDigits (limit n : Nat) :
    readNat limit (Nat.toDigits 10 n) = if n ≤ limit then .ok n else .error .tooLarge := by
  obtain ⟨c, digits, hcons, hdigits⟩ := exists_toDigits_eq_cons n
  have hplus : c ≠ '+' := ne_of_isDigit (hdigits c List.mem_cons_self) rfl
  rw [← readDigits_toDigits, hcons]
  unfold readNat
  split
  case h_1 heq => cases heq
  case h_2 heq => exact absurd (List.cons.inj heq).1 hplus
  case h_3 heq => exact absurd (List.cons.inj heq).1 hplus
  case h_4 => rfl

/-- A dash begins no natural number, not even in front of a zero. So a negative count is refused by
its first character. -/
theorem readNat_dash (limit : Nat) (digits : List Char) :
    readNat limit ('-' :: digits) = .error .invalidDigit := by
  have hdash : readNat limit ('-' :: digits) = readDigits limit .tooLarge 0 ('-' :: digits) := by
    unfold readNat
    split
    case h_1 heq => cases heq
    case h_2 heq => simp at heq
    case h_3 heq => simp at heq
    case h_4 => rfl
  rw [hdash]
  rfl

/-- **A natural number up to the bound is read back, and no other number is taken for one.** -/
theorem readNat_decimal (limit : Nat) (n : Int) :
    if 0 ≤ n ∧ n ≤ limit then readNat limit (decimal n).toList = .ok n.toNat
    else ∃ fault, readNat limit (decimal n).toList = .error fault := by
  rcases Int.lt_or_le n 0 with hneg | hnonneg
  · rw [if_neg (by omega), toList_decimal_of_neg hneg]
    exact ⟨_, readNat_dash limit _⟩
  rw [toList_decimal_of_nonneg hnonneg, readNat_toDigits]
  have habs : n.natAbs = n.toNat := by omega
  by_cases hfits : n.natAbs ≤ limit
  · rw [if_pos (by omega), if_pos hfits, habs]
  · rw [if_neg (by omega), if_neg hfits]
    exact ⟨_, rfl⟩

/-! ## Integers -/

/-- Behind a dash the bound is wider by one, as it is for integers of a fixed width. -/
theorem readInt_dash (limit n : Nat) :
    readInt limit ('-' :: Nat.toDigits 10 n) =
      (if n ≤ limit + 1 then .ok n else .error .tooSmall : Except Fault Nat).map
        fun n => -(n : Int) := by
  rw [← readDigits_toDigits]
  obtain ⟨c, digits, hcons, -⟩ := exists_toDigits_eq_cons n
  rw [hcons]
  rfl

/-- Digits without a sign are read as a natural number within the bound. -/
theorem readInt_toDigits (limit n : Nat) :
    readInt limit (Nat.toDigits 10 n) =
      (if n ≤ limit then .ok n else .error .tooLarge : Except Fault Nat).map
        fun n => (n : Int) := by
  rw [← readNat_toDigits]
  obtain ⟨c, digits, hcons, hdigits⟩ := exists_toDigits_eq_cons n
  have hdash : c ≠ '-' := ne_of_isDigit (hdigits c List.mem_cons_self) rfl
  rw [hcons]
  unfold readInt
  split
  case h_1 heq => exact absurd (List.cons.inj heq).1 hdash
  case h_2 heq => exact absurd (List.cons.inj heq).1 hdash
  case h_3 => rfl

/-- **An integer within the bounds is read back, and one beyond them is refused.** -/
theorem readInt_decimal (limit : Nat) (n : Int) :
    if -(limit + 1) ≤ n ∧ n ≤ limit then readInt limit (decimal n).toList = .ok n
    else ∃ fault, readInt limit (decimal n).toList = .error fault := by
  rcases Int.lt_or_le n 0 with hneg | hnonneg
  · rw [toList_decimal_of_neg hneg, readInt_dash]
    by_cases hfits : n.natAbs ≤ limit + 1
    · have habs : -(n.natAbs : Int) = n := by omega
      rw [if_pos (by omega), if_pos hfits]
      exact congrArg Except.ok habs
    · rw [if_neg (by omega), if_neg hfits]
      exact ⟨_, rfl⟩
  · rw [toList_decimal_of_nonneg hnonneg, readInt_toDigits]
    by_cases hfits : n.natAbs ≤ limit
    · have habs : (n.natAbs : Int) = n := by omega
      rw [if_pos (by omega), if_pos hfits]
      exact congrArg Except.ok habs
    · rw [if_neg (by omega), if_neg hfits]
      exact ⟨_, rfl⟩

end Bounded

end DeviceReadings
