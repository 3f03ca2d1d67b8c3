import DeviceReadings.Decimal.Bounded
import DeviceReadings.Log.Event
import DeviceReadings.Text.Controls

/-!
# The command line

The arguments of the command are options with a value (`OptionName`), in any order and each at most
once, or a question for help or for the version. A value stands in an argument of its own behind
the option or in the same argument behind an equals sign. Arguments are bytes.

Messages are for a terminal, and so control sequences in an argument are left out when it is shown.

`CommandLine.read` goes through them from left to right. A value in an argument of its own is kept
(`Pending`) and judged only when the next option, a question or the end is met; until then an
argument that does not belong there is the graver fault.
-/

namespace DeviceReadings

/-- An option that takes a value. -/
inductive OptionName where
  | config
  | device
  | model
  | count
  deriving DecidableEq, Repr

namespace OptionName

/-- The name of an option, without the dashes. -/
def name : OptionName → String
  | config => "config"
  | device => "device"
  | model => "model"
  | count => "count"

/-- The name that the value of an option goes by. -/
def valueName : OptionName → String
  | config => "CONFIG"
  | device => "DEVICE"
  | model => "MODEL"
  | count => "COUNT"

/-- An option with its value, as the messages show it. -/
def usage (o : OptionName) : String :=
  "--" ++ o.name ++ " <" ++ o.valueName ++ ">"

/-- The options in the order in which help lists them. -/
def all : List OptionName := [config, device, model, count]

end OptionName

/-- What a run of the command is to do. -/
structure Options where
  /-- The path of the configuration file. -/
  config : List UInt8
  device : Int32
  model : Option (List Char)
  /-- How many readings to print. -/
  count : Nat
  deriving DecidableEq, Repr

/-- What the command is asked for. -/
inductive Request where
  | help
  | version
  | readings (options : Options)
  deriving DecidableEq, Repr

/-- What is wrong with the arguments. -/
inductive UsageFault where
  | unexpectedArgument (shown : List Char)
  /-- A value for something that takes none. -/
  | unexpectedValue (value : List Char) (owner : String)
  | valueRequired (o : OptionName)
  | repeated (o : OptionName)
  | invalidValue (o : OptionName) (value : List Char) (reason : String)
  | notText
  deriving DecidableEq, Repr

/-- A text between single quotes. -/
def singleQuoted (text : String) : String :=
  "'" ++ text ++ "'"

/-- An argument between single quotes, as a message shows it. -/
def shownArgument (text : List Char) : String :=
  singleQuoted (String.ofList (Controls.strip text))

/-- A usage fault in words. -/
def UsageFault.message : UsageFault → String
  | unexpectedArgument shown =>
    "error: unexpected argument " ++ shownArgument shown ++ " found"
  | unexpectedValue value owner =>
    "error: unexpected value " ++ shownArgument value ++ " for " ++
      singleQuoted owner ++ " found; no more were expected"
  | valueRequired o =>
    "error: a value is required for " ++ singleQuoted o.usage ++ " but none was supplied"
  | repeated o => "error: the argument " ++ singleQuoted o.usage ++ " cannot be used multiple times"
  | invalidValue o value reason =>
    "error: invalid value " ++ shownArgument value ++ " for " ++
      singleQuoted o.usage ++ ": " ++ reason
  | notText => "error: invalid UTF-8 was detected in one or more arguments"

namespace CommandLine

/-! ## Values -/

/-- The options that have been given a value, with their values. -/
structure Chosen where
  config : Option (List UInt8)
  device : Option Int32
  model : Option (List Char)
  count : Option Nat
  deriving DecidableEq, Repr

namespace Chosen

/-- No option yet. -/
def nothing : Chosen := ⟨none, none, none, none⟩

/-- Has an option been given? -/
def has (c : Chosen) : OptionName → Bool
  | .config => c.config.isSome
  | .device => c.device.isSome
  | .model => c.model.isSome
  | .count => c.count.isSome

/-- The options, with defaults for those that have not been given. -/
def options (c : Chosen) : Options :=
  ⟨c.config.getD (Utf8.encode "reader.json".toList), c.device.getD 1, c.model, c.count.getD 1⟩

end Chosen

/-- The text of a value. -/
def valueText (value : List UInt8) : Except UsageFault (List Char) :=
  match Utf8.decode? value with
  | some text => .ok text
  | none => .error .notText

/-- Reads a device: an integer of 64 bits, which must then be one of 32 bits. -/
def readDevice (text : List Char) : Except UsageFault Int32 :=
  match Bounded.readInt 0x7FFFFFFFFFFFFFFF text with
  | .error fault => .error (.invalidValue .device text fault.message)
  | .ok n =>
    if -2147483648 ≤ n ∧ n ≤ 2147483647 then .ok (Int32.ofInt n)
    else
      .error (.invalidValue .device text (decimal n ++ " is not in -2147483648..=2147483647"))

/-- Reads a count: a natural number of 64 bits. -/
def readCount (text : List Char) : Except UsageFault Nat :=
  match Bounded.readNat 0xFFFFFFFFFFFFFFFF text with
  | .error fault => .error (.invalidValue .count text fault.message)
  | .ok n => .ok n

/-- Takes a value for an option. A path must not be empty. -/
def Chosen.take (c : Chosen) (o : OptionName) (value : List UInt8) : Except UsageFault Chosen :=
  if c.has o then .error (.repeated o)
  else
    match o with
    | .config =>
      if value = [] then .error (.valueRequired .config) else .ok { c with config := some value }
    | .device => do
      let device ← readDevice (← valueText value)
      return { c with device := some device }
    | .model => do
      let model ← valueText value
      return { c with model := some model }
    | .count => do
      let count ← readCount (← valueText value)
      return { c with count := some count }

/-! ## Arguments -/

/-- The form of an argument. -/
inductive Argument where
  /-- Two dashes and no more. -/
  | separator
  /-- A name behind two dashes, and what stands behind the equals sign if there is one. -/
  | long (name : List UInt8) (value : Option (List UInt8))
  /-- Something behind one dash. -/
  | short (flags : List UInt8)
  | plain
  deriving DecidableEq, Repr

/-- The byte of a dash. -/
def dash : UInt8 := 0x2D

/-- The byte of an equals sign. -/
def equalsSign : UInt8 := 0x3D

/-- What stands before and behind the first equals sign. -/
def splitEquals (bytes : List UInt8) : List UInt8 × Option (List UInt8) :=
  match bytes.dropWhile (· ≠ equalsSign) with
  | [] => (bytes, none)
  | _ :: value => (bytes.takeWhile (· ≠ equalsSign), some value)

/-- Tells the form of an argument. -/
def Argument.ofBytes (bytes : List UInt8) : Argument :=
  match bytes with
  | [] => .plain
  | a :: rest =>
    if a = dash then
      match rest with
      | [] => .plain
      | b :: rest' =>
        if b = dash then
          if rest' = [] then .separator
          else .long (splitEquals rest').1 (splitEquals rest').2
        else .short rest
    else .plain

/-- Does a text behind a dash look like a number: digits, perhaps one point and then perhaps one
`e` in either case, neither of them first and the `e` not last? `point` and `mark` say whether they
may still come, and `last` whether the text may end here. -/
def looksNumeric (point mark last : Bool) : List Char → Bool
  | [] => last
  | c :: rest =>
    if c.isDigit then looksNumeric point mark true rest
    else if c = '.' && point then looksNumeric false mark true rest
    else if (c = 'e' || c = 'E') && mark then looksNumeric false false false rest
    else false

/-- Is a text behind a dash taken for a negative number? The first character must be a digit. -/
def isNumeric : List Char → Bool
  | [] => false
  | c :: rest => c.isDigit && looksNumeric true true true rest

/-! ## From left to right -/

/-- An option whose value has not been judged, or not even been met. -/
structure Pending where
  option : OptionName
  value : Option (List UInt8)
  deriving DecidableEq, Repr

/-- What has been read so far. -/
structure Progress where
  chosen : Chosen
  pending : Option Pending
  deriving DecidableEq, Repr

namespace Progress

/-- Nothing yet. -/
def start : Progress := ⟨.nothing, none⟩

/-- Judges the pending option. -/
def settle (p : Progress) : Except UsageFault Chosen :=
  match p.pending with
  | none => .ok p.chosen
  | some ⟨o, none⟩ => .error (.valueRequired o)
  | some ⟨o, some value⟩ => p.chosen.take o value

/-- The option that waits for its value. -/
def waiting? (p : Progress) : Option OptionName :=
  match p.pending with
  | some ⟨o, none⟩ => some o
  | _ => none

end Progress

/-- What one argument leads to: more to read, an answer without more, or nothing but arguments
that do not belong. -/
inductive Step where
  | more (p : Progress)
  | answer (r : Request)
  | separated
  deriving DecidableEq, Repr

/-- An argument that does not belong, as it is shown. -/
def unexpected (bytes : List UInt8) : UsageFault :=
  .unexpectedArgument (Utf8.decodeLossy bytes)

/-- The option of a name. -/
def option? (name : List UInt8) : Option OptionName :=
  OptionName.all.find? fun o => Utf8.encode o.name.toList = name

/-- The question of a long name. -/
def question? (name : List UInt8) : Option Request :=
  if name = Utf8.encode "help".toList then some .help
  else if name = Utf8.encode "version".toList then some .version
  else none

/-- The question of a letter. -/
def letterQuestion? (letter : Char) : Option Request :=
  if letter = 'h' then some .help
  else if letter = 'V' then some .version
  else none

/-- Reads a name behind two dashes, with its value if it has one. -/
def stepLong (p : Progress) (name : List UInt8) (value : Option (List UInt8)) :
    Except UsageFault Step :=
  match option? name, value with
  | some o, some v => do
    let chosen ← (← p.settle).take o v
    return .more ⟨chosen, none⟩
  | some o, none => do return .more ⟨← p.settle, some ⟨o, none⟩⟩
  | none, _ =>
    match question? name, value with
    | some r, none => do
      let _ ← p.settle
      return .answer r
    | some _, some v =>
      .error (.unexpectedValue (Utf8.decodeLossy v) ("--" ++ String.ofList (Utf8.decodeLossy name)))
    | none, _ => .error (unexpected (dash :: dash :: name))

/-- What is shown of an argument behind one dash that does not belong: its first letter, or all of
it if it begins with no letter. -/
def unexpectedShort (flags : List UInt8) : UsageFault :=
  match Utf8.pieces none flags with
  | some c :: _ => .unexpectedArgument ['-', c]
  | _ => unexpected (dash :: flags)

/-- Reads what stands behind one dash: a negative number, if the device waits for its value, or
letters, of which the first one counts. -/
def stepShort (p : Progress) (flags : List UInt8) : Except UsageFault Step :=
  if p.waiting? = some .device && ((Utf8.decode? flags).map isNumeric).getD false then
    .ok (.more ⟨p.chosen, some ⟨.device, some (dash :: flags)⟩⟩)
  else
    match Utf8.pieces none flags with
    | some c :: _ =>
      match letterQuestion? c with
      | some r => do
        let _ ← p.settle
        return .answer r
      | none => .error (unexpectedShort flags)
    | _ => .error (unexpectedShort flags)

/-- Reads one argument. -/
def step (p : Progress) (bytes : List UInt8) : Except UsageFault Step :=
  match Argument.ofBytes bytes with
  | .separator => .ok .separated
  | .long name value => stepLong p name value
  | .short flags => stepShort p flags
  | .plain =>
    match p.waiting? with
    | some o => .ok (.more ⟨p.chosen, some ⟨o, some bytes⟩⟩)
    | none => .error (unexpected bytes)

/-- Reads all arguments. -/
def readFrom (p : Progress) : List (List UInt8) → Except UsageFault Request
  | [] => do return .readings (← p.settle).options
  | bytes :: rest =>
    match step p bytes with
    | .error fault => .error fault
    | .ok (.answer r) => .ok r
    | .ok (.more p') => readFrom p' rest
    | .ok .separated =>
      match rest with
      | [] => do return .readings (← p.settle).options
      | bytes' :: _ => .error (unexpected bytes')

/-- What the command is asked for by its arguments. -/
def read (arguments : List (List UInt8)) : Except UsageFault Request :=
  readFrom .start arguments

end CommandLine

end DeviceReadings
