import DeviceReadings.Pattern.Expression

/-!
# Values to look for

A value that a field may be asked for is a number or a regular expression.
-/

namespace DeviceReadings

namespace Pattern

/-- Is a text an exponent, or nothing at all? -/
def isExponent : List Char → Bool
  | [] => true
  | c :: rest =>
    let digits :=
      match rest with
      | '+' :: digits | '-' :: digits => digits
      | _ => rest
    (c = 'e' || c = 'E') && digits ≠ [] && digits.all Char.isDigit

/-- Is a text a number without a sign: digits, perhaps with a point among them and an exponent
behind them? -/
def isUnsigned (text : List Char) : Bool :=
  let whole := text.takeWhile Char.isDigit
  match text.drop whole.length with
  | '.' :: rest =>
    let fraction := rest.takeWhile Char.isDigit
    (whole ≠ [] || fraction ≠ []) && isExponent (rest.drop fraction.length)
  | rest => whole ≠ [] && isExponent rest

/-- Is a text the name of a number that is not finite, in any case? -/
def isNotFinite (text : List Char) : Bool :=
  ["inf", "infinity", "nan"].contains (String.ofList (text.map Char.toLower))

/-- Is a text a value that a field may be asked for? Numbers are expressions too, but for those
with a plus sign. -/
def isValue : List Char → Bool
  | '+' :: number => isUnsigned number || isNotFinite number
  | text => isExpression text

end Pattern

end DeviceReadings
