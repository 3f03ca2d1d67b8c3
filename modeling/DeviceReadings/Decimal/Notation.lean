import DeviceReadings.Decimal.Shortest

/-!
# How a number is written

Numbers are written with the fewest digits that identify them: positionally, with at least one
digit after the point, if the first digit stands for a power of ten from -5 to 15, and otherwise
with that power as a signed exponent.
-/

namespace DeviceReadings

namespace Notation

/-- The least and the greatest power of the first digit for which a number is written
positionally. -/
def positional : Int × Int := (-5, 15)

/-- Digits with the point after the first `n` of them; zeros fill both sides. -/
def pointed (n : Int) (digits : List Char) : List Char :=
  if n ≤ 0 then ['0', '.'] ++ List.replicate (-n).toNat '0' ++ digits
  else
    let whole := digits.take n.toNat
    let rest := digits.drop n.toNat
    whole ++ List.replicate (n.toNat - whole.length) '0' ++ ['.'] ++
      (if rest = [] then ['0'] else rest)

/-- An exponent with its sign. -/
def signed (n : Int) : List Char :=
  (if n < 0 then '-' else '+') :: Nat.toDigits 10 n.natAbs

/-- A positive decimal in writing. -/
def ofScientific (d : Scientific) : List Char :=
  let digits := Nat.toDigits 10 d.digits
  let power := d.exponent + digits.length - 1
  if positional.1 ≤ power ∧ power ≤ positional.2 then pointed (power + 1) digits
  else
    let fraction := digits.drop 1
    digits.take 1 ++ (if fraction = [] then [] else '.' :: fraction) ++ ['e'] ++ signed power

/-- A finite number of 64 bits in writing. -/
def ofBits (bits : UInt64) : List Char :=
  let size := bits.toNat % 0x8000000000000000
  (if bits.toNat < 0x8000000000000000 then [] else ['-']) ++
    (if size = 0 then ['0', '.', '0'] else ofScientific (Rounding.ofBits bits).shortest)

end Notation

end DeviceReadings
