import DeviceReadings.Json.Fault

/-!
# Decoders

A `Decoder` reads a value from the front of the bytes of a text and leaves the rest, or gives a
fault. A fault is placed either where the rest begins (`failHere`) or behind the first byte of the
rest, if there is one (`failNext`). This module holds what all decoders share: blanks, the next
byte, and words that must be spelled out.
-/

namespace DeviceReadings

namespace Json

/-- Reads a value from the front of some bytes. -/
abbrev Decoder (α : Type) : Type := StateT (List UInt8) (Except Fault) α

variable {α : Type}

/-- The byte of an ASCII character. -/
def ascii (c : Char) : UInt8 :=
  UInt8.ofNat c.toNat

/-- A fault before the rest of the text. -/
def failHere (cause : Cause) : Decoder α :=
  fun s => .error ⟨cause, s.length⟩

/-- A fault behind the first byte of the rest, or at the end of the text. -/
def failNext (cause : Cause) : Decoder α :=
  fun s => .error ⟨cause, s.length - 1⟩

/-- Is a byte a blank: a space, tab, line feed or carriage return? -/
def isBlank (b : UInt8) : Bool :=
  b = ascii ' ' || b = ascii '\n' || b = ascii '\t' || b = ascii '\r'

/-- Leaves out the blanks at the front. -/
def skipBlanks : Decoder Unit :=
  fun s => .ok ((), s.dropWhile isBlank)

/-- The first byte after any blanks, which stays. At the end of the text the part named is
incomplete. -/
def peekToken (part : Part) : Decoder UInt8 := do
  skipBlanks
  match ← get with
  | [] => failHere (.endOfText part)
  | b :: _ => pure b

/-- Drops the first byte. -/
def advance : Decoder Unit :=
  modify List.tail

/-- Reads the rest of a word of which the first letter has been seen. -/
def restOfWord : List Char → Decoder Unit
  | [] => pure ()
  | c :: cs => fun s =>
    match s with
    | [] => failHere (.endOfText .value) []
    | b :: rest => if b = ascii c then restOfWord cs rest else failHere .misspelled rest

/-- Asks that nothing but blanks be left. -/
def endOfText : Decoder Unit := do
  skipBlanks
  match ← get with
  | [] => pure ()
  | _ :: _ => failNext .trailingCharacters

end Json

end DeviceReadings
