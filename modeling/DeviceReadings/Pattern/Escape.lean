import DeviceReadings.Pattern.Flags

/-!
# Escapes in a regular expression

What a backslash and the characters behind it stand for: `escape?` reads an escape, wherever it
stands, and it is up to the reader of sets and of expressions whether it is understood there.
-/

namespace DeviceReadings

namespace Pattern

/-- What an escape stands for. -/
inductive Escape where
  /-- A character; `isByte` says whether it is written as a byte. -/
  | character (isByte : Bool) (c : Char)
  /-- A class of characters: digits, white space, or those of words. -/
  | oneOf (negated : Bool)
  /-- A boundary of words, or a place that is none. -/
  | boundary
  /-- The beginning or the end of the text. -/
  | edge
  deriving DecidableEq, Repr

/-- The value of a hexadecimal digit, in either case. -/
def hexDigit? (c : Char) : Option Nat :=
  if c.isDigit then some (c.toNat - 0x30)
  else if 'A'.toNat ≤ c.toNat ∧ c.toNat ≤ 'F'.toNat then some (c.toNat - 0x37)
  else if 'a'.toNat ≤ c.toNat ∧ c.toNat ≤ 'f'.toNat then some (c.toNat - 0x57)
  else none

/-- The character with a code point of `count` hexadecimal digits, read after the value `acc`. -/
def codePoint? (f : Flags) : (count acc : Nat) → List Char → Option (Char × List Char)
  | 0, acc, text => if acc.isValidChar then some (Char.ofNat acc, text) else none
  | n + 1, acc, text =>
    match f.skip text with
    | [] => none
    | c :: rest => (hexDigit? c).bind fun d => codePoint? f n (acc * 16 + d) rest

/-- Reads an escape, from behind the backslash. There are no classes by general category, since
there are no tables for them. -/
def escape? (f : Flags) : List Char → Option (Escape × List Char)
  | [] => none
  | c :: rest =>
    match c with
    | 'x' => (codePoint? f 2 0 rest).map fun r => (.character true r.1, r.2)
    | 'u' => (codePoint? f 4 0 rest).map fun r => (.character false r.1, r.2)
    | 'U' => (codePoint? f 8 0 rest).map fun r => (.character false r.1, r.2)
    | 'd' | 's' | 'w' => some (.oneOf false, rest)
    | 'D' | 'S' | 'W' => some (.oneOf true, rest)
    | 'A' | 'z' => some (.edge, rest)
    | 'b' | 'B' | '<' | '>' => some (.boundary, rest)
    | 'a' => some (.character false '\x07', rest)
    | 'f' => some (.character false '\x0c', rest)
    | 'n' => some (.character false '\n', rest)
    | 'r' => some (.character false '\r', rest)
    | 't' => some (.character false '\t', rest)
    | 'v' => some (.character false '\x0b', rest)
    | _ =>
      if c.toNat < 0x80 && !c.isAlphanum then some (.character false c, rest) else none

end Pattern

end DeviceReadings
