import DeviceReadings.Effect.Act
import DeviceReadings.Log.Filter
import DeviceReadings.Pattern.Value
import DeviceReadings.Text.Blank
import DeviceReadings.Text.Utf8

/-!
# Log filters in writing

A filter is written as directives with commas between them. A directive is a level for all events
(a name in any case, or a number from 0 for none to 5 for all), or `target=level`, or
`target[span\x7bfield=value\x7d]=level` with any of its parts left out; without a level it lets
everything in its scope through. A span or a value takes the events out of a directive's scope.

White space around a directive has no part in finding where its parts begin and end, but it counts
when they are cut out of the text, so that a directive behind a space is read askew. White space
can be more than one byte long, and so a cut may even fall inside a character; such a text is torn.

`Filter.ofVariable` is the filter of a setting that may be missing or make no sense: such a setting
lets warnings and errors through, and an empty one only errors. A torn setting makes the program
panic.
-/

namespace DeviceReadings

/-- Why a text is no filter. -/
inductive FilterFault where
  | senseless
  /-- A directive would have to be cut inside a character. -/
  | torn
  deriving DecidableEq, Repr

namespace Filter

/-! ## Levels -/

/-- The threshold of a number from 0 to 5. -/
def ofRank : Nat → Option Threshold
  | 0 => some none
  | 1 => some (some .error)
  | 2 => some (some .warn)
  | 3 => some (some .info)
  | 4 => some (some .debug)
  | 5 => some (some .trace)
  | _ => none

/-- The threshold of a name in lower case. -/
def ofName (name : String) : Option Threshold :=
  match name with
  | "off" => some none
  | "error" => some (some .error)
  | "warn" => some (some .warn)
  | "info" => some (some .info)
  | "debug" => some (some .debug)
  | "trace" => some (some .trace)
  | _ => none

/-- The value of decimal digits, read after the value `acc`. -/
def digits? (acc : Nat) : List Char → Option Nat
  | [] => some acc
  | c :: rest => if c.isDigit then digits? (acc * 10 + (c.toNat - 48)) rest else none

/-- A number in decimal, with a plus sign at most. -/
def number? : List Char → Option Nat
  | [] => none
  | ['+'] => none
  | '+' :: rest => digits? 0 rest
  | text => digits? 0 text

/-- The threshold that a text names. -/
def threshold? (text : List Char) : Option Threshold :=
  match number? text with
  | some n => ofRank n
  | none => ofName (String.ofList (text.map Char.toLower))

/-- The threshold behind an equals sign; nothing at all means every level. -/
def thresholdOrAll (text : List Char) : Except FilterFault Threshold :=
  if text = [] then .ok (some .trace)
  else
    match threshold? text with
    | some t => .ok t
    | none => .error .senseless

/-! ## Directives -/

/-- How many bytes a text takes. -/
def size (text : List Char) : Nat :=
  (Utf8.encode text).length

/-- What stands in a text behind its first `start` bytes. -/
def cutFrom (text : List Char) (start : Nat) : Except FilterFault (List Char) :=
  match Utf8.decode? ((Utf8.encode text).drop start) with
  | some rest => .ok rest
  | none => .error .torn

/-- What stands in a text between two places, which are counted in bytes. -/
def cut (text : List Char) (start stop : Nat) : Except FilterFault (List Char) :=
  let before := (Utf8.encode text).take stop
  match Utf8.decode? (before.take start), Utf8.decode? (before.drop start) with
  | some _, some part => .ok part
  | _, _ => .error .torn

/-- Can a directive begin with a character? -/
def canBegin (c : Char) : Bool :=
  c = '-' || c = ':' || c = '_' || Alphanumeric.isAlphanumeric c

/-- The level of a directive, of which `rest` is left behind the bracket that closes at `place`:
nothing, or an equals sign and a level. -/
def behindBracket (whole : List Char) (place : Nat) (rest : List Char) :
    Except FilterFault Threshold :=
  match rest with
  | [] => .ok (some .trace)
  | '=' :: _ => do thresholdOrAll (← cutFrom whole (place + 1))
  | _ => .error .senseless

/-- The scope of a directive with a field, which may be asked for its value. -/
def fieldScope (target : Option (List Char)) (span field : List Char) : Except FilterFault Scope :=
  let name := field.takeWhile (· ≠ '=')
  if field = [] then .error .senseless
  else
    match field.drop name.length with
    | [] => .ok (if span = [] then .events target (some name) else .spans)
    | _ :: value =>
      if Pattern.isValue (value.takeWhile (· ≠ '=')) then .ok .spans else .error .senseless

/-- A directive with brackets, from behind the opening one, which ends at `place`. -/
def bracketed (whole : List Char) (target : Option (List Char)) (place : Nat)
    (text : List Char) : Except FilterFault Directive :=
  let span := text.takeWhile fun c => c ≠ ']' && c ≠ '\x7b'
  let spanEnd := place + size span
  match text.drop span.length with
  | ']' :: rest => do
    let _ ← cut whole place spanEnd
    return ⟨.spans, ← behindBracket whole (spanEnd + 1) rest⟩
  | '\x7b' :: inner => do
    let spanText ← cut whole place spanEnd
    let field := inner.takeWhile (· ≠ '\x7d')
    let fieldEnd := spanEnd + 1 + size field
    match inner.drop field.length with
    | [] => .error .senseless
    | _ :: rest =>
      let scope ← fieldScope target spanText (← cut whole (spanEnd + 1) fieldEnd)
      match rest with
      | ']' :: rest' => return ⟨scope, ← behindBracket whole (fieldEnd + 2) rest'⟩
      | _ => .error .senseless
  | _ => .error .senseless

/-- A directive that begins with a level or a target; `text` is the directive without the white
space at its ends. -/
def named (whole text : List Char) : Except FilterFault Directive :=
  let name := text.takeWhile fun c => c ≠ '=' && c ≠ '['
  match text.drop name.length with
  | [] =>
    match threshold? whole with
    | some t => .ok ⟨.events none none, t⟩
    | none => .ok ⟨.events (some whole) none, some .trace⟩
  | '=' :: _ => do
    let target ← cut whole 0 (size name)
    return ⟨.events (some target) none, ← thresholdOrAll (← cutFrom whole (size name + 1))⟩
  | _ :: rest => do
    let target ← cut whole 0 (size name)
    bracketed whole (some target) (size name + 1) rest

/-- Reads one directive. -/
def directive (whole : List Char) : Except FilterFault Directive :=
  match Blank.trim whole with
  | [] => .error .senseless
  | c :: rest =>
    if c = '[' then bracketed whole none 1 rest
    else if canBegin c then named whole (c :: rest)
    else .error .senseless

/-! ## Filters -/

/-- The parts of a text between commas, with the part `current` (reversed) begun. -/
def splitCommas (current : List Char) : List Char → List (List Char)
  | [] => [current.reverse]
  | c :: rest =>
    if c = ',' then current.reverse :: splitCommas [] rest else splitCommas (c :: current) rest

/-- Reads all directives, up to the first fault. -/
def directives : List (List Char) → Except FilterFault (List Directive)
  | [] => .ok []
  | part :: rest => do
    let d ← directive part
    return d :: (← directives rest)

/-- Reads a filter. Empty parts do not count, and without any other part only errors are let
through. -/
def read (text : List Char) : Except FilterFault (List Directive) :=
  match (splitCommas [] text).filter (· ≠ []) with
  | [] => .ok [⟨.events none none, some .error⟩]
  | parts => directives parts

/-- The filter that lets warnings and errors through. -/
def warnings : List Directive := [⟨.events none none, some .warn⟩]

/-- The filter of a setting. -/
def ofVariable (setting : Option (List UInt8)) : Outcome (List Directive) :=
  match setting.bind Utf8.decode? with
  | none => .value warnings
  | some text =>
    match read text with
    | .ok filter => .value filter
    | .error .senseless => .value warnings
    | .error .torn => .panicked

end Filter

end DeviceReadings
