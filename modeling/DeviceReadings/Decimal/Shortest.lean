/-!
# The shortest decimal of a binary number

A finite binary number of 64 bits stands for all the reals that round to it. `Rounding.ofBits`
gives these as an interval of fractions, and `Rounding.shortest` finds in it a decimal with the
fewest digits; of two with as many digits the nearer one, and of two as near the even one. All
arithmetic is on natural numbers and exact.
-/

namespace DeviceReadings

/-- `digits * 10 ^ exponent`. -/
structure Scientific where
  digits : Nat
  exponent : Int
  deriving DecidableEq, Repr

namespace Scientific

/-- Drops the zeros at the end of the digits, up to `n` of them. -/
def trim : Nat → Scientific → Scientific
  | 0, d => d
  | n + 1, d => if d.digits % 10 = 0 then trim n ⟨d.digits / 10, d.exponent + 1⟩ else d

end Scientific

/-- A positive number as a fraction, between the ends of the reals that round to it. All three are
over one denominator. -/
structure Rounding where
  low : Nat
  value : Nat
  high : Nat
  denominator : Nat
  /-- Do the ends themselves round to the number? -/
  closed : Bool
  deriving DecidableEq, Repr

namespace Rounding

/-- The number with significand `m` and binary exponent `q`. If it is the least one with its
exponent (`narrow`), the number below is only half as far away as the one above. -/
def ofBinary (m : Nat) (q : Int) (narrow : Bool) : Rounding :=
  let unit := Nat.pow 2 (q - 2).toNat
  ⟨(4 * m - if narrow then 1 else 2) * unit, 4 * m * unit, (4 * m + 2) * unit,
    Nat.pow 2 (2 - q).toNat, m % 2 = 0⟩

/-- The positive finite number with the given bits, leaving out the sign. -/
def ofBits (bits : UInt64) : Rounding :=
  let e : Nat := bits.toNat / 0x10000000000000 % 0x800
  let f : Nat := bits.toNat % 0x10000000000000
  if e = 0 then ofBinary f (-1074) false
  else ofBinary (0x10000000000000 + f) ((e : Int) - 1075) (f = 0 ∧ 1 < e)

/-- Does `c * 10 ^ e` round to the number? -/
def contains (r : Rounding) (c : Nat) (e : Int) : Bool :=
  let x := c * Nat.pow 10 e.toNat * r.denominator
  let s := Nat.pow 10 (-e).toNat
  if r.closed then r.low * s ≤ x && x ≤ r.high * s else r.low * s < x && x < r.high * s

/-- The least `k` such that the number is below `10 ^ k`. -/
def magnitude (r : Rounding) : Int :=
  if r.denominator ≤ r.value then (Nat.toDigits 10 (r.value / r.denominator)).length
  else 1 - (Nat.toDigits 10 ((r.denominator - 1) / r.value)).length

/-- Is `c * 10 ^ e` the nearer one of itself and `(c + 1) * 10 ^ e`, or as near and even? -/
def lowerIsNearer (r : Rounding) (c : Nat) (e : Int) : Bool :=
  let twice := 2 * r.value * Nat.pow 10 (-e).toNat
  let sum := (2 * c + 1) * Nat.pow 10 e.toNat * r.denominator
  twice < sum || (twice == sum && c % 2 == 0)

/-- The best decimal with `n` digits that rounds to the number, if there is one. -/
def withDigits (r : Rounding) (n : Nat) : Option Scientific :=
  let e := r.magnitude - n
  let c := r.value * Nat.pow 10 (-e).toNat / (r.denominator * Nat.pow 10 e.toNat)
  match r.contains c e, r.contains (c + 1) e with
  | true, true => some ⟨if r.lowerIsNearer c e then c else c + 1, e⟩
  | true, false => some ⟨c, e⟩
  | false, true => some ⟨c + 1, e⟩
  | false, false => none

/-- The number itself, as a decimal. Its denominator is a power of two, so that as many more
digits make it whole. -/
def exact (r : Rounding) : Scientific :=
  let n := Nat.log2 r.denominator
  ⟨r.value * Nat.pow 5 n, -n⟩

/-- The decimal with the fewest digits that rounds to the number. Seventeen digits are enough. -/
def shortest (r : Rounding) : Scientific :=
  (((List.range 17).findSome? fun n => r.withDigits (n + 1)).getD r.exact).trim 400

end Rounding

end DeviceReadings
