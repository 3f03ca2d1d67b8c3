/-!
# Text as bytes

The byte form of a text (`Utf8.encode`) and its reading. Bytes are read one at a time by a machine
that remembers which continuation bytes it still waits for (`Waiting`), so that it refuses a byte
as soon as no character can go on with it: forms longer than needed, surrogates and code points
beyond the last one never get past their second byte.

`Utf8.pieces` cuts any bytes into characters and stretches that are none. `Utf8.decode?` asks that
there be characters alone, and `Utf8.decodeLossy` puts a replacement character in the place of each
stretch.
-/

namespace DeviceReadings

namespace Utf8

/-- The bytes of a text. -/
def encode (text : List Char) : List UInt8 :=
  text.flatMap String.utf8EncodeChar

/-- A character whose first bytes have been read. -/
structure Waiting where
  /-- How many bytes are to come after the next one. -/
  later : Nat
  /-- The least value of the next byte. -/
  low : Nat
  /-- The greatest value of the next byte. -/
  high : Nat
  /-- The bits of the code point read so far. -/
  bits : Nat
  deriving DecidableEq, Repr

/-- What a byte is at the beginning of a character. -/
inductive Start where
  /-- A character of one byte. -/
  | whole (c : Char)
  /-- The first of several bytes. -/
  | lead (w : Waiting)
  /-- No beginning of a character. -/
  | bad
  deriving DecidableEq, Repr

/-- Reads a byte at the beginning of a character. -/
def start (byte : UInt8) : Start :=
  let b := byte.toNat
  if b < 0x80 then .whole (Char.ofNat b)
  else if b < 0xC2 then .bad
  else if b < 0xE0 then .lead ⟨0, 0x80, 0xBF, b - 0xC0⟩
  else if b = 0xE0 then .lead ⟨1, 0xA0, 0xBF, b - 0xE0⟩
  else if b = 0xED then .lead ⟨1, 0x80, 0x9F, b - 0xE0⟩
  else if b < 0xF0 then .lead ⟨1, 0x80, 0xBF, b - 0xE0⟩
  else if b = 0xF0 then .lead ⟨2, 0x90, 0xBF, b - 0xF0⟩
  else if b < 0xF4 then .lead ⟨2, 0x80, 0xBF, b - 0xF0⟩
  else if b = 0xF4 then .lead ⟨2, 0x80, 0x8F, b - 0xF0⟩
  else .bad

/-- The code point bits after one more continuation byte. -/
def Waiting.absorb (w : Waiting) (byte : UInt8) : Nat :=
  w.bits * 64 + (byte.toNat - 0x80)

/-- Cuts bytes into characters (`some`) and the longest stretches that begin one and break off, or
single bytes that begin none (`none`). -/
def pieces : Option Waiting → List UInt8 → List (Option Char)
  | none, [] => []
  | some _, [] => [none]
  | none, b :: rest =>
    match start b with
    | .whole c => some c :: pieces none rest
    | .lead w => pieces (some w) rest
    | .bad => none :: pieces none rest
  | some w, b :: rest =>
    if w.low ≤ b.toNat ∧ b.toNat ≤ w.high then
      match w.later with
      | 0 => some (Char.ofNat (w.absorb b)) :: pieces none rest
      | n + 1 => pieces (some ⟨n, 0x80, 0xBF, w.absorb b⟩) rest
    else
      none ::
        match start b with
        | .whole c => some c :: pieces none rest
        | .lead w => pieces (some w) rest
        | .bad => none :: pieces none rest

/-- The members of a list, if none of them is missing. -/
def allPresent : List (Option Char) → Option (List Char)
  | [] => some []
  | none :: _ => none
  | some c :: rest => (allPresent rest).map (c :: ·)

/-- The text that the bytes are the form of, if there is one. -/
def decode? (bytes : List UInt8) : Option (List Char) :=
  allPresent (pieces none bytes)

/-- The text that the bytes are the form of, with `U+FFFD` for every stretch that is not text. -/
def decodeLossy (bytes : List UInt8) : List Char :=
  (pieces none bytes).map (·.getD '\uFFFD')

end Utf8

end DeviceReadings
