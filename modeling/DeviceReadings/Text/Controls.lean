import DeviceReadings.Text.Utf8

/-!
# Text without control sequences

What is left of a text when it is shown without the sequences that control a terminal: those that
begin with an escape character, and control characters other than tab, line feed, form feed and
carriage return (`Controls.strip`). A sequence that breaks off takes the rest of the text with it.

Such a sequence is followed by a machine with the states `Sequence`. A blank inside a sequence is
shown, and what stands behind it is shown too, up to the next control character; there the sequence
goes on.
-/

namespace DeviceReadings

namespace Controls

/-- How far a sequence has come. -/
inductive Sequence where
  /-- No sequence. -/
  | ground
  /-- Behind the escape character. -/
  | escape
  /-- Inside a short sequence of more than one character. -/
  | escapeBody
  /-- Inside a sequence with parameters. -/
  | parameters
  /-- At the beginning of a device string. -/
  | deviceEntry
  /-- Among the parameters of a device string. -/
  | deviceParameters
  /-- Behind the parameters of a device string. -/
  | deviceMiddle
  /-- Inside the text of a device string, or of a string without a meaning. -/
  | string
  /-- Inside the text of a command to the operating system. -/
  | command
  deriving DecidableEq, Repr

namespace Sequence

/-- Behind the escape character: a character may begin a longer sequence or end this one. -/
def ofIntroducer (n : Nat) : Sequence :=
  if n < 0x20 ∨ 0x7F ≤ n then .escape
  else if n < 0x30 then .escapeBody
  else if n = 0x50 then .deviceEntry
  else if n = 0x58 ∨ n = 0x5E ∨ n = 0x5F then .string
  else if n = 0x5B then .parameters
  else if n = 0x5D then .command
  else .ground

/-- The state after one more ASCII character. -/
def next (s : Sequence) (n : Nat) : Sequence :=
  if n = 0x1B then .escape
  else if n = 0x18 ∨ n = 0x1A then .ground
  else
    match s with
    | ground => .ground
    | escape => ofIntroducer n
    | escapeBody => if 0x30 ≤ n ∧ n < 0x7F then .ground else .escapeBody
    | parameters => if 0x40 ≤ n ∧ n < 0x7F then .ground else .parameters
    | deviceEntry =>
      if n < 0x20 ∨ n = 0x7F then .deviceEntry
      else if n < 0x30 then .deviceMiddle
      else if n < 0x40 then .deviceParameters
      else .string
    | deviceParameters =>
      if n < 0x20 ∨ n = 0x7F then .deviceParameters
      else if n < 0x30 then .deviceMiddle
      else if n < 0x3C then .deviceParameters
      else .string
    | deviceMiddle => if n < 0x30 ∨ n = 0x7F then .deviceMiddle else .string
    | string => .string
    | command => if n = 0x07 then .ground else .command

/-- Is a control character obeyed at once, whatever the sequence? -/
def obeys : Sequence → Bool
  | ground | escape | escapeBody | parameters => true
  | _ => false

/-- The state after a character beyond ASCII. It is no part of any sequence, but a byte `9C` in it
ends a string. -/
def afterWide (s : Sequence) (c : Char) : Sequence :=
  if s = .string ∧ (String.utf8EncodeChar c).contains 0x9C then .ground else s

end Sequence

/-- Is a character a blank that is shown? -/
def isBlank (c : Char) : Bool :=
  c = '\t' || c = '\n' || c = '\x0c' || c = '\r'

/-- Does a character show when it stands outside of all sequences? -/
def shows (c : Char) : Bool :=
  isBlank c || 0x80 ≤ c.toNat || (0x20 ≤ c.toNat && c.toNat < 0x7F)

/-- What is left of a text, with a sequence begun. `showing` says whether the character before was
shown; if it was, the sequence rests until a character comes that does not show. -/
def stripFrom (showing : Bool) (s : Sequence) : List Char → List Char
  | [] => []
  | c :: rest =>
    if showing && shows c then
      c :: stripFrom true (if 0x80 ≤ c.toNat then .ground else s) rest
    else if (s = .ground && shows c) || (s.obeys && isBlank c) then c :: stripFrom true s rest
    else
      stripFrom false (if 0x80 ≤ c.toNat then s.afterWide c else s.next c.toNat) rest

/-- A text without control sequences. -/
def strip (text : List Char) : List Char :=
  stripFrom false .ground text

end Controls

end DeviceReadings
