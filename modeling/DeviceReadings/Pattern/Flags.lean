import DeviceReadings.Text.Blank

/-!
# Flags of a regular expression

Flags say how an expression is to be understood from some place on. `Flags` keeps those three on
which it hangs whether an expression can be understood at all, and the functions on it are the
rules:

* with `unicode` on, an expression speaks of characters, and there are no tables of their
  properties: neither of classes such as digits, nor of the two cases of a letter;
* with `unicode` off, it speaks of bytes. It then knows the classes of ASCII and both cases of its
  letters, but what could match a part of a character is refused;
* with `spaced` on, white space and comments do not count (`Flags.skip`).
-/

namespace DeviceReadings

namespace Pattern

/-- The flags at a place of an expression. -/
structure Flags where
  ignoreCase : Bool
  unicode : Bool
  spaced : Bool
  deriving DecidableEq, Repr

/-- A text from its first character on that is neither white space nor in a comment. A comment
begins with a number sign and ends with its line; `comment` says whether one has begun. -/
def skipBlanks (comment : Bool) : List Char → List Char
  | [] => []
  | c :: rest =>
    if comment then skipBlanks (c ≠ '\n') rest
    else if Blank.isBlank c then skipBlanks false rest
    else if c = '#' then skipBlanks true rest
    else c :: rest

namespace Flags

/-- The flags at the beginning. -/
def start : Flags := ⟨false, true, false⟩

/-- A text from its first character on that counts. -/
def skip (f : Flags) (text : List Char) : List Char :=
  if f.spaced then skipBlanks false text else text

/-! ## What is understood -/

/-- Is a character understood outside of sets? `isByte` says whether it is written as a byte. -/
def understandsCharacter (f : Flags) (isByte : Bool) (c : Char) : Bool :=
  if f.unicode then !f.ignoreCase else !isByte || c.toNat < 0x80

/-- Is a character understood as a member of a set? -/
def understandsMember (f : Flags) (c : Char) : Bool :=
  if f.unicode then !f.ignoreCase else c.toNat < 0x80

/-- Is a class of characters understood that is written with a letter? -/
def understandsClass (f : Flags) (negated : Bool) : Bool :=
  !f.unicode && !negated

/-- Is a class of ASCII characters understood that is written with its name? -/
def understandsName (f : Flags) (negated : Bool) : Bool :=
  if f.unicode then !f.ignoreCase else !negated

/-- Is a negated set understood? -/
def understandsNegation (f : Flags) : Bool :=
  f.unicode

/-- Is the class of all characters understood? -/
def understandsAny (f : Flags) : Bool :=
  f.unicode

/-- Is a boundary of words understood? -/
def understandsBoundary (f : Flags) : Bool :=
  !f.unicode

/-! ## In writing -/

/-- The letters of all flags, with those that have no part in being understood. -/
def letters : List Char := ['i', 'm', 's', 'U', 'u', 'R', 'x']

/-- The flags after one has been turned on or off. -/
def turn (f : Flags) (letter : Char) (on : Bool) : Flags :=
  match letter with
  | 'i' => { f with ignoreCase := on }
  | 'u' => { f with unicode := on }
  | 'x' => { f with spaced := on }
  | _ => f

/-- Reads flags up to a colon or a closing parenthesis: the new flags, the letters and dashes read
(reversed), and the text from that character on. A dash turns off what comes behind it. Each may
come once, and the dash must not be the last. -/
def read? (f : Flags) (seen : List Char) : List Char → Option (Flags × List Char × List Char)
  | [] => none
  | c :: rest =>
    if c = ':' || c = ')' then if seen.head? = some '-' then none else some (f, seen, c :: rest)
    else if seen.contains c then none
    else if c = '-' then read? f (c :: seen) rest
    else if letters.contains c then read? (f.turn c (!seen.contains '-')) (c :: seen) rest
    else none

end Flags

end Pattern

end DeviceReadings
