import DeviceReadings.Text.Printable

/-!
# Quoted text

A text between double quotes on which nothing is hidden: a quote or backslash stands behind a
backslash, tab, carriage return, line feed and the null character have a letter or digit of their
own, and every other character that does not show is given by its code point in hexadecimal.
-/

namespace DeviceReadings

namespace Quoted

/-- The letter that stands for a character behind a backslash. -/
def letter? : Char → Option Char
  | '\x00' => some '0'
  | '\t' => some 't'
  | '\r' => some 'r'
  | '\n' => some 'n'
  | '\\' => some '\\'
  | '"' => some '"'
  | _ => none

/-- A character as it stands in a quoted text. -/
def escape (c : Char) : List Char :=
  match letter? c with
  | some l => ['\\', l]
  | none =>
    if Printable.isShown c then [c]
    else ['\\', 'u', '\x7b'] ++ Nat.toDigits 16 c.toNat ++ ['\x7d']

/-- A text in quotes. -/
def encode (text : List Char) : List Char :=
  '"' :: text.flatMap escape ++ ['"']

end Quoted

end DeviceReadings
