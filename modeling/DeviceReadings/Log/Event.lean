import DeviceReadings.Seeding.Policy

/-!
# Log events

Everything the program may log, as data: `Event` lists the kinds of events with what they report,
and `Event.level`, `Event.target`, `Event.message` and `Event.fields` say how each appears. How an
event is written on a line is the subject of `DeviceReadings.Log.Line`.
-/

namespace DeviceReadings

/-- The weight of an event, heaviest first. -/
inductive Level where
  | error
  | warn
  | info
  | debug
  | trace
  deriving DecidableEq, Repr

namespace Level

/-- The name of a level. -/
def label : Level → String
  | error => "ERROR"
  | warn => "WARN"
  | info => "INFO"
  | debug => "DEBUG"
  | trace => "TRACE"

/-- The place of a level, from 1 for the heaviest to 5 for the lightest. -/
def rank : Level → Nat
  | error => 1
  | warn => 2
  | info => 3
  | debug => 4
  | trace => 5

end Level

/-- What an event reports under a name: a text that is written as it is, or one that is quoted. -/
inductive FieldValue where
  | plain (text : String)
  | quoted (text : String)
  deriving DecidableEq, Repr

namespace FieldValue

/-- The text of a field, without quotes. -/
def text : FieldValue → String
  | plain t => t
  | quoted t => t

end FieldValue

/-- The text of an integer in decimal. -/
def decimal (n : Int) : String :=
  if n < 0 then "-" ++ Nat.repr n.natAbs else Nat.repr n.natAbs

/-- Something worth a line in the log. -/
inductive Event where
  /-- A reader is about to be seeded. -/
  | seeding (policy : SeedPolicy) (seed : UInt64)
  /-- A reading is asked for, for a device and perhaps a model. -/
  | read (device : Int32) (model : Option String)
  /-- No seed could be had, so the default seed is used. -/
  | fallback (cause : Failure)
  /-- No handle is given out. -/
  | rejected (cause : Failure)
  /-- The configuration cannot be loaded, so the default one is used. -/
  | defaultConfiguration (cause : Failure)
  /-- The configuration in use, as the log shows it. -/
  | configured (configuration : String)
  deriving DecidableEq, Repr

namespace Event

/-- The weight of an event. -/
def level : Event → Level
  | seeding .. => .debug
  | read .. => .trace
  | configured .. => .info
  | fallback .. | rejected .. | defaultConfiguration .. => .warn

/-- The part of the program that an event comes from. -/
def target : Event → String
  | seeding .. | read .. | fallback .. => "random_reader_core::random_reader"
  | rejected .. => "random_reader"
  | defaultConfiguration .. | configured .. => "random_reader_standalone"

/-- What happened, without the particulars. -/
def message : Event → String
  | seeding .. => "Seeding reader"
  | read .. => "Read"
  | fallback .. => "Falling back to default seed"
  | rejected .. => "Rejecting reader allocation"
  | defaultConfiguration .. => "Using default reader configuration"
  | configured .. => "Reader configured"

/-- The particulars of an event, by name and in order. A missing model is shown as `<none>`. -/
def fields : Event → List (String × FieldValue)
  | seeding policy seed =>
    [("policy", .plain policy.label), ("seed", .plain (Nat.repr seed.toNat))]
  | read device model =>
    [("device_id", .plain (decimal device.toInt)), ("model", .quoted (model.getD "<none>"))]
  | fallback cause | rejected cause | defaultConfiguration cause =>
    [("error", .plain cause.message)]
  | configured configuration => [("config", .plain configuration)]

/-- The names of all that an event carries: its message and its particulars. -/
def fieldNames (e : Event) : List String :=
  "message" :: e.fields.map (·.1)

end Event

end DeviceReadings
