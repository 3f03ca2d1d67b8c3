import DeviceReadings.Log.Event
import DeviceReadings.Text.Quoted
import DeviceReadings.Decimal.Notation

/-!
# Faults of a configuration text

What can be wrong with a text that should be a configuration (`Cause`), and where (`Place`). A
`Fault` counts the bytes of the text that lie behind its place, which is what a reader that walks
along the text knows; `Fault.place` turns this into a line and a column, and `Fault.message` into
the words that are reported.

Columns count bytes, and a place may lie inside a character.
-/

namespace DeviceReadings

namespace Json

/-- The part of a text that was being read when the text ended. -/
inductive Part where
  | value
  | object
  | list
  | string
  deriving DecidableEq, Repr

/-- The name of a part, with its article. -/
def Part.text : Part → String
  | value => "a value"
  | object => "an object"
  | list => "a list"
  | string => "a string"

/-- A value that stands where another was expected. -/
inductive Found where
  | null
  | boolean (b : Bool)
  | integer (n : Int)
  /-- A number that is no integer of a machine word, by the bits of its binary form. -/
  | floating (bits : UInt64)
  | string (text : List Char)
  | sequence
  | map
  deriving DecidableEq, Repr

/-- A found value, described. -/
def Found.text : Found → String
  | null => "null"
  | boolean b => "boolean `" ++ (if b then "true" else "false") ++ "`"
  | integer n => "integer `" ++ decimal n ++ "`"
  | floating bits => "floating point `" ++ String.ofList (Notation.ofBits bits) ++ "`"
  | string t => "string " ++ String.ofList (Quoted.encode t)
  | sequence => "sequence"
  | map => "map"

/-- What was expected of a value. -/
inductive Expected where
  /-- An unsigned word of 64 bits. -/
  | word
  /-- Nothing but `null`. -/
  | nothing
  /-- A whole configuration. -/
  | configuration
  deriving DecidableEq, Repr

/-- An expectation, described. -/
def Expected.text : Expected → String
  | word => "u64"
  | nothing => "unit"
  | configuration => "struct ReaderConfig"

/-- What is wrong with a text. -/
inductive Cause where
  /-- The text ends too early. -/
  | endOfText (part : Part)
  | expectedValue
  /-- A word that begins like `null`, `true` or `false` and goes on differently. -/
  | misspelled
  | expectedColon
  | expectedCommaOrBrace
  | expectedCommaOrBracket
  | invalidNumber
  | numberOutOfRange
  | invalidEscape
  | loneSurrogate
  /-- The first half of a surrogate pair without the second one. -/
  | halfPair
  | controlCharacter
  | keyNotString
  | trailingComma
  | trailingCharacters
  | unknownField (name : List Char) (known : List String)
  | duplicateField (name : String)
  | unknownVariant (name : List Char) (known : List String)
  | invalidType (found : Found) (expected : Expected)
  | invalidValue (found : Found) (expected : Expected)
  deriving DecidableEq, Repr

/-- A text between backticks. -/
def ticked (text : String) : String :=
  "`" ++ text ++ "`"

/-- The names that were possible. -/
def oneOf : List String → String
  | [a, b] => ticked a ++ " or " ++ ticked b
  | names => "one of " ++ String.intercalate ", " (names.map ticked)

/-- The words for what is wrong. -/
def Cause.text : Cause → String
  | endOfText part => "EOF while parsing " ++ part.text
  | expectedValue => "expected value"
  | misspelled => "expected ident"
  | expectedColon => "expected `:`"
  | expectedCommaOrBrace => "expected `,` or `\x7d`"
  | expectedCommaOrBracket => "expected `,` or `]`"
  | invalidNumber => "invalid number"
  | numberOutOfRange => "number out of range"
  | invalidEscape => "invalid escape"
  | loneSurrogate => "lone leading surrogate in hex escape"
  | halfPair => "unexpected end of hex escape"
  | controlCharacter => "control character (\\u0000-\\u001F) found while parsing a string"
  | keyNotString => "key must be a string"
  | trailingComma => "trailing comma"
  | trailingCharacters => "trailing characters"
  | unknownField name known =>
    "unknown field " ++ ticked (String.ofList name) ++ ", expected " ++ oneOf known
  | duplicateField name => "duplicate field " ++ ticked name
  | unknownVariant name known =>
    "unknown variant " ++ ticked (String.ofList name) ++ ", expected " ++ oneOf known
  | invalidType found expected => "invalid type: " ++ found.text ++ ", expected " ++ expected.text
  | invalidValue found expected => "invalid value: " ++ found.text ++ ", expected " ++ expected.text

/-- A place in a text. -/
structure Place where
  /-- The line, counted from 1. -/
  line : Nat
  /-- The bytes before the place on its line. -/
  column : Nat
  deriving DecidableEq, Repr

namespace Place

/-- The place before the first byte. -/
def first : Place := ⟨1, 0⟩

/-- The place after one more byte; a line feed begins a new line. -/
def next (p : Place) (byte : UInt8) : Place :=
  if byte = 10 then ⟨p.line + 1, 0⟩ else ⟨p.line, p.column + 1⟩

/-- The place after some bytes. -/
def after (bytes : List UInt8) : Place :=
  bytes.foldl next first

/-- A place in words. -/
def text (p : Place) : String :=
  " at line " ++ Nat.repr p.line ++ " column " ++ Nat.repr p.column

end Place

/-- Something wrong with a text, at a place in it. -/
structure Fault where
  cause : Cause
  /-- How many bytes of the text lie behind the place. -/
  behind : Nat
  deriving DecidableEq, Repr

namespace Fault

/-- The offset of a fault in the bytes of its text. -/
def offset (bytes : List UInt8) (f : Fault) : Nat :=
  bytes.length - f.behind

/-- The place of a fault in the bytes of its text. -/
def place (bytes : List UInt8) (f : Fault) : Place :=
  Place.after (bytes.take (f.offset bytes))

/-- A fault in words. -/
def message (bytes : List UInt8) (f : Fault) : String :=
  f.cause.text ++ (f.place bytes).text

end Fault

end Json

end DeviceReadings
