import DeviceReadings.Json.Decoder

/-!
# Number literals

A number is an integer of a 64-bit word where it can be one (`Number.natural`, `Number.negative`),
and otherwise a binary floating-point number (`Number.floating`): with a fraction or an exponent,
beyond the words, or as `-0`.

A floating-point number is made of the digits that fit a 64-bit word and a power of ten for all
the others, by one multiplication or division with at most the 308th power of ten at a time
(`scaled`). This rounds more than once, and so is not always the nearest number.
-/

namespace DeviceReadings

namespace Json

/-- A number as it is read. -/
inductive Number where
  /-- A natural number below `2 ^ 64`. -/
  | natural (n : Nat)
  /-- The negative of a number from 1 to `2 ^ 63`. -/
  | negative (n : Nat)
  /-- A floating-point number, by its bits. -/
  | floating (bits : UInt64)
  deriving DecidableEq, Repr

/-- A number that stands where another value was expected. -/
def Number.found : Number → Found
  | natural n => .integer n
  | negative n => .integer (-n)
  | floating bits => .floating bits

/-- Is a byte a decimal digit? -/
def isDigit (b : UInt8) : Bool := 0x30 ≤ b.toNat && b.toNat ≤ 0x39

/-- The value of a decimal digit. -/
def digitValue (b : UInt8) : Nat := b.toNat - 0x30

/-- The digits at the front that fit a 64-bit word after the value `n`: the value with them, how
many they are, and the rest. -/
def takeFitting (n count : Nat) : List UInt8 → Nat × Nat × List UInt8
  | [] => (n, count, [])
  | b :: rest =>
    if isDigit b && n * 10 + digitValue b < UInt64.size then
      takeFitting (n * 10 + digitValue b) (count + 1) rest
    else (n, count, b :: rest)

/-! ## Floating point -/

/-- A power of ten, rounded to the nearest number. -/
def powerOfTen (n : Nat) : Float :=
  Float.ofScientific 1 false n

/-- `x` divided by `10 ^ n`, by at most the 308th power at a time and until nothing is left.
`rounds` bounds the divisions. -/
def divided : (rounds : Nat) → Float → (n : Nat) → Float
  | 0, x, _ => x
  | rounds + 1, x, n =>
    if n ≤ 308 then x / powerOfTen n
    else if x == 0 then x
    else divided rounds (x / powerOfTen 308) (n - 308)

/-- `x * 10 ^ e`, unless it is too large. -/
def scaled (x : Float) (e : Int) : Option Float :=
  if 0 ≤ e then
    if e ≤ 308 then
      let y := x * powerOfTen e.toNat
      if y.isInf then none else some y
    else if x == 0 then some x
    else none
  else some (divided (e.natAbs / 308 + 1) x e.natAbs)

/-- The number with a sign, the digits `n` and the exponent `e`. -/
def floating (minus : Bool) (n : Nat) (e : Int) : Decoder Number :=
  match scaled (Float.ofScientific n false 0) e with
  | none => failHere .numberOutOfRange
  | some x => pure (.floating (if minus then (-x).toBits else x.toBits))

/-- The digits of an exponent, after the value `e`. An exponent beyond 31 bits gives `none`, and
the digits after the one that led there are left. -/
def exponentDigits (e : Nat) : List UInt8 → Option Nat × List UInt8
  | [] => (some e, [])
  | b :: rest =>
    if isDigit b then
      if e * 10 + digitValue b < 0x80000000 then exponentDigits (e * 10 + digitValue b) rest
      else (none, rest)
    else (some e, b :: rest)

/-- The digits of an exponent with its sign, and the number that it makes. -/
def exponentValue (minus : Bool) (n : Nat) (e : Int) (down : Bool) : Decoder Number := fun s =>
  match s with
  | [] => failHere (.endOfText .value) []
  | b :: rest =>
    if isDigit b then
      match exponentDigits (digitValue b) rest with
      | (some x, rest') => floating minus n (if down then e - x else e + x) rest'
      | (none, rest') =>
        if n ≠ 0 && !down then failHere .numberOutOfRange rest'
        else floating minus 0 0 (rest'.dropWhile isDigit)
    else failHere .invalidNumber rest

/-- An exponent, from behind its `e`. -/
def exponentPart (minus : Bool) (n : Nat) (e : Int) : Decoder Number := fun s =>
  match s with
  | b :: rest =>
    if b = ascii '+' then exponentValue minus n e false rest
    else if b = ascii '-' then exponentValue minus n e true rest
    else exponentValue minus n e false s
  | [] => exponentValue minus n e false []

/-- Is a byte the `e` of an exponent? -/
def isExponentMark (b : UInt8) : Bool := b = ascii 'e' || b = ascii 'E'

/-- An exponent, if there is one, and the number that it makes. -/
def exponentOrEnd (minus : Bool) (n : Nat) (e : Int) : Decoder Number := fun s =>
  match s with
  | b :: rest => if isExponentMark b then exponentPart minus n e rest else floating minus n e s
  | [] => floating minus n e []

/-- Does a text begin with a digit? -/
def startsWithDigit : List UInt8 → Bool
  | [] => false
  | b :: _ => isDigit b

/-- A fraction, from behind its point. Digits that do not fit the word are left out. -/
def fractionPart (minus : Bool) (n : Nat) (e : Int) : Decoder Number := fun s =>
  match takeFitting n 0 s with
  | (n', count, rest) =>
    if startsWithDigit rest then exponentOrEnd minus n' (e - count) (rest.dropWhile isDigit)
    else if count = 0 then
      failNext (if rest = [] then .endOfText .value else .invalidNumber) rest
    else exponentOrEnd minus n' (e - count) rest

/-! ## Integers and what may follow them -/

/-- The integer of a sign and digits; `-0` and what is below the words is floating point. -/
def integral (minus : Bool) (n : Nat) : Decoder Number :=
  if minus then
    if n = 0 ∨ 0x8000000000000000 < n then floating true n 0 else pure (.negative n)
  else pure (.natural n)

/-- A number from behind its digits `n`, of which `e` more did not fit the word. -/
def numberTail (minus : Bool) (n : Nat) (e : Nat) : Decoder Number := fun s =>
  match s with
  | b :: rest =>
    if b = ascii '.' then fractionPart minus n e rest
    else if isExponentMark b then exponentPart minus n e rest
    else if e = 0 then integral minus n s else floating minus n e s
  | [] => if e = 0 then integral minus n [] else floating minus n e []

/-- A number, from behind its sign. -/
def unsignedNumber (minus : Bool) : Decoder Number := fun s =>
  match s with
  | [] => failHere (.endOfText .value) []
  | b :: rest =>
    if b = ascii '0' then
      if startsWithDigit rest then failNext .invalidNumber rest else numberTail minus 0 0 rest
    else if isDigit b then
      match takeFitting (digitValue b) 0 rest with
      | (n, _, rest') =>
        numberTail minus n (rest'.takeWhile isDigit).length (rest'.dropWhile isDigit)
    else failHere .invalidNumber rest

/-- A number. Where none begins the fault is the one given. -/
def numberLiteral (otherwise : Decoder Number) : Decoder Number := fun s =>
  match s with
  | b :: rest =>
    if b = ascii '-' then unsignedNumber true rest
    else if isDigit b then unsignedNumber false s
    else otherwise s
  | [] => otherwise []

end Json

end DeviceReadings
