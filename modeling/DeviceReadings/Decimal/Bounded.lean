/-!
# Numbers within bounds

Reading decimal numbers that must fit a machine word. The digits are judged from left to right, so
that a number is found too large before anything behind the digit that makes it so is looked at.
-/

namespace DeviceReadings

namespace Bounded

/-- Why a text is no number within the bounds. -/
inductive Fault where
  | empty
  | invalidDigit
  | tooLarge
  | tooSmall
  deriving DecidableEq, Repr

/-- A fault in words. -/
def Fault.message : Fault → String
  | empty => "cannot parse integer from empty string"
  | invalidDigit => "invalid digit found in string"
  | tooLarge => "number too large to fit in target type"
  | tooSmall => "number too small to fit in target type"

/-- Reads digits after the value `acc`, up to the value `limit`. -/
def readDigits (limit : Nat) (beyond : Fault) (acc : Nat) : List Char → Except Fault Nat
  | [] => .ok acc
  | c :: rest =>
    if c.isDigit then
      if acc * 10 + (c.toNat - 48) ≤ limit then
        readDigits limit beyond (acc * 10 + (c.toNat - 48)) rest
      else .error beyond
    else .error .invalidDigit

/-- Reads a natural number up to `limit`, with a plus sign or none. -/
def readNat (limit : Nat) : List Char → Except Fault Nat
  | [] => .error .empty
  | ['+'] => .error .invalidDigit
  | '+' :: digits => readDigits limit .tooLarge 0 digits
  | digits => readDigits limit .tooLarge 0 digits

/-- Reads an integer from `-(limit + 1)` to `limit`, with a sign or none. -/
def readInt (limit : Nat) : List Char → Except Fault Int
  | ['-'] => .error .invalidDigit
  | '-' :: digits => (readDigits (limit + 1) .tooSmall 0 digits).map fun n => -(n : Int)
  | text => (readNat limit text).map fun n => (n : Int)

end Bounded

end DeviceReadings
