import DeviceReadings.Json.Decoder
import DeviceReadings.Text.Utf8

/-!
# String literals

The text between quotes: characters as they are, short escapes, and escapes by one or two 16-bit
units in hexadecimal. `stringLiteral` reads from behind the opening quote to behind the closing
one. Bytes that are not escaped are taken over as they are, and the whole is read as text at the
end.
-/

namespace DeviceReadings

namespace Json

/-- The value of a hexadecimal digit, in either case. -/
def hexDigit? (byte : UInt8) : Option Nat :=
  let b := byte.toNat
  if 0x30 ≤ b ∧ b ≤ 0x39 then some (b - 0x30)
  else if 0x41 ≤ b ∧ b ≤ 0x46 then some (b - 0x37)
  else if 0x61 ≤ b ∧ b ≤ 0x66 then some (b - 0x57)
  else none

/-- The value of hexadecimal digits, read after the value `acc`. -/
def hexValue? (acc : Nat) : List UInt8 → Option Nat
  | [] => some acc
  | b :: rest => (hexDigit? b).bind fun d => hexValue? (acc * 16 + d) rest

/-- A 16-bit unit: four hexadecimal digits, all of which are read before any is judged. -/
def hexUnit : Decoder Nat := fun s =>
  match s with
  | a :: b :: c :: d :: rest =>
    match hexValue? 0 [a, b, c, d] with
    | some n => .ok (n, rest)
    | none => failHere .invalidEscape rest
  | _ => failHere (.endOfText .string) []

/-- A byte between the halves of a surrogate pair. -/
def pairByte (c : Char) : Decoder Unit := fun s =>
  match s with
  | [] => failHere (.endOfText .string) []
  | b :: rest => if b = ascii c then .ok ((), rest) else failHere .halfPair rest

/-- Is a unit the first half of a surrogate pair? -/
def isHighSurrogate (n : Nat) : Bool := 0xD800 ≤ n && n ≤ 0xDBFF

/-- Is a unit the second half of a surrogate pair? -/
def isLowSurrogate (n : Nat) : Bool := 0xDC00 ≤ n && n ≤ 0xDFFF

/-- The character of a surrogate pair. -/
def ofSurrogates (high low : Nat) : Char :=
  Char.ofNat (0x10000 + (high - 0xD800) * 0x400 + (low - 0xDC00))

/-- A character by its units, from behind the `u` of the first one. -/
def unitEscape : Decoder Char := do
  let high ← hexUnit
  if isLowSurrogate high then failHere .loneSurrogate
  else if isHighSurrogate high then
    pairByte '\\'
    pairByte 'u'
    let low ← hexUnit
    if isLowSurrogate low then pure (ofSurrogates high low) else failHere .loneSurrogate
  else pure (Char.ofNat high)

/-- The character of a short escape, by its letter. -/
def shortEscape? (letter : UInt8) : Option Char :=
  if letter = ascii '"' then some '"'
  else if letter = ascii '\\' then some '\\'
  else if letter = ascii '/' then some '/'
  else if letter = ascii 'b' then some '\x08'
  else if letter = ascii 'f' then some '\x0c'
  else if letter = ascii 'n' then some '\n'
  else if letter = ascii 'r' then some '\r'
  else if letter = ascii 't' then some '\t'
  else none

/-- A character by an escape, from behind the backslash. -/
def escape : Decoder Char := fun s =>
  match s with
  | [] => failHere (.endOfText .string) []
  | b :: rest =>
    if b = ascii 'u' then unitEscape rest
    else
      match shortEscape? b with
      | some c => .ok (c, rest)
      | none => failHere .invalidEscape rest

/-- The bytes of a string up to its closing quote, which is read too. Every round but the last one
takes a byte, so that `fuel` larger than the number of bytes is never used up. -/
def stringBytes : (fuel : Nat) → Decoder (List UInt8)
  | 0 => failHere (.endOfText .string)
  | fuel + 1 => fun s =>
    match s with
    | [] => failHere (.endOfText .string) []
    | b :: rest =>
      if b = ascii '"' then .ok ([], rest)
      else if b = ascii '\\' then
        match escape rest with
        | .error fault => .error fault
        | .ok (c, rest') =>
          (stringBytes fuel rest').map fun r => (String.utf8EncodeChar c ++ r.1, r.2)
      else if b.toNat < 0x20 then failHere .controlCharacter rest
      else (stringBytes fuel rest).map fun r => (b :: r.1, r.2)

/-- The text of a string, from behind its opening quote to behind its closing one. -/
def stringLiteral : Decoder (List Char) := fun s =>
  (stringBytes (s.length + 1) s).map fun r => (Utf8.decodeLossy r.1, r.2)

end Json

end DeviceReadings
