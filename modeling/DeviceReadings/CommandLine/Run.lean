import DeviceReadings.CommandLine.Basic
import DeviceReadings.Config.File
import DeviceReadings.Log.FilterText
import DeviceReadings.Log.Line

/-!
# A run of the command

The command prints readings, one a line. It takes its configuration from a file, and the default
one with a warning if the file gives none. Everything that happens is logged, and a filter from the
environment says what of the log is shown.

A run goes through stages (`Stage`): the filter and the arguments are looked at (`arrange`), the
reader is set up (`openSession`), and the readings are taken one after the other
(`Session.printNext`). A stage has lines to show, and it says with which exit code the run ends or
what it goes on with.

`CommandLine.run` puts the stages together to the whole run: from the arguments, the files, the
filter and the answers of the clock and the entropy source to the exit code, the lines printed, and
the lines of the log. The command that is executed goes through the same stages and shows each of
them as it comes.
-/

namespace DeviceReadings

namespace CommandLine

/-! ## Help and version -/

/-- The name of the command with its version. -/
def versionText : String := "random-reader-standalone 0.1.0"

/-- The help text. -/
def helpText : List String :=
  ["Print pseudo-random device readings", "", "Usage: random-reader-standalone [OPTIONS]", "",
    "Options:",
    "      --config <CONFIG>  Reader configuration (JSON). Defaults are used if it cannot be " ++
      "loaded [default: reader.json]",
    "      --device <DEVICE>  [default: 1]",
    "      --model <MODEL>    ",
    "      --count <COUNT>    Number of readings to print [default: 1]",
    "  -h, --help             Print help",
    "  -V, --version          Print version"]

/-! ## Sessions -/

/-- The configuration that a file gives, or else the default one, and what is logged of it. -/
def chooseConfig (path : List UInt8) (file : FileState) : Config × List Event :=
  match Config.load (String.ofList (Utf8.decodeLossy path)) file with
  | .ok c => (c, [.configured c.label])
  | .error cause =>
    (Config.default, [.defaultConfiguration cause, .configured Config.default.label])

/-- A reader with the label of its readings. -/
structure Session where
  reader : Reader Generator
  label : Label
  deriving DecidableEq, Repr

variable {τ : Type} [SeedSource τ]

/-- Sets up the reader of a run. The events of the configuration come first. -/
def startSession (options : Options) (file : FileState) (seeds : τ) :
    Except Failure (Run τ Session) :=
  let chosen := chooseConfig options.config file
  (Reader.ofConfig chosen.1 seeds).map fun run =>
    let label := ⟨options.device, options.model.map String.ofList⟩
    let opened := run.andThen fun reader s => ⟨.value ⟨reader, label⟩, s, []⟩
    ⟨opened.outcome, opened.state, chosen.2.map Effect.event ++ opened.trace⟩

/-- Takes the next reading. -/
def Session.next : Act (Session × τ) Int32 :=
  fun s =>
    (Reader.read .recording s.1.label (s.1.reader, s.2)).mapState fun t =>
      (⟨t.1, s.1.label⟩, t.2)

/-! ## Reports -/

/-- What a run of the command leaves behind. -/
structure Report where
  code : Nat
  /-- The lines printed. -/
  printed : List String
  /-- The lines of the log and of error messages. -/
  logged : List String
  deriving DecidableEq, Repr

namespace Report

/-- A run that has nothing more to show. -/
def done : Report := ⟨0, [], []⟩

/-- A run that only shows the help text. -/
def help : Report := ⟨0, helpText, []⟩

/-- A run that only shows the version. -/
def version : Report := ⟨0, [versionText], []⟩

/-- A run that refuses its arguments. -/
def ofUsageFault (fault : UsageFault) : Report := ⟨2, [], linesOf fault.message.toList⟩

/-- A run whose reader cannot be set up. -/
def ofFailure (cause : Failure) : Report := ⟨1, [], ["Error: " ++ cause.message]⟩

/-- A run that ends with a panic. -/
def ofPanic : Report := ⟨101, [], []⟩

end Report

/-! ## Stages -/

/-- The lines of those events that a filter lets through. -/
def shownEvents (filter : List Directive) (events : List Event) : List String :=
  (events.filter (Filter.admits filter)).flatMap Event.lines

/-- A stage of a run: the lines that it prints and logs, and the exit code if the run ends with it,
or else what the run goes on with. -/
structure Stage (α : Type) where
  printed : List String
  logged : List String
  next : Except Nat α

namespace Stage

variable {S α : Type}

/-- The stage that a run ends with. -/
def last (report : Report) : Stage α :=
  ⟨report.printed, report.logged, .error report.code⟩

/-- What is done in a stage: the filter says what of it is logged, and after a panic nothing is
printed and the run ends. -/
def ofRun (filter : List Directive) (print : α → List String) (run : Run S α) : Stage (α × S) :=
  match run.outcome with
  | .value a => ⟨print a, shownEvents filter run.log, .ok (a, run.state)⟩
  | .panicked => .last { Report.ofPanic with logged := shownEvents filter run.log }

/-- A stage with the rest of the run. -/
def andThen (stage : Stage α) (rest : α → Report) : Report :=
  match stage.next with
  | .error code => ⟨code, stage.printed, stage.logged⟩
  | .ok a =>
    let report := rest a
    ⟨report.code, stage.printed ++ report.printed, stage.logged ++ report.logged⟩

end Stage

/-- Looks at the setting of the filter and then at the arguments. -/
def arrange (filter : Option (List UInt8)) (arguments : List (List UInt8)) :
    Stage (Options × List Directive) :=
  match Filter.ofVariable filter with
  | .panicked => .last .ofPanic
  | .value filter =>
    match read arguments with
    | .error fault => .last (.ofUsageFault fault)
    | .ok .help => .last .help
    | .ok .version => .last .version
    | .ok (.readings options) => ⟨[], [], .ok (options, filter)⟩

/-- Sets up the reader. -/
def openSession (options : Options) (filter : List Directive) (file : FileState) (seeds : τ) :
    Stage (Session × τ) :=
  match startSession options file seeds with
  | .error cause => .last (.ofFailure cause)
  | .ok run => .ofRun filter (fun _ => []) run

/-- Takes the next reading and prints it. -/
def Session.printNext (filter : List Directive) (s : Session × τ) : Stage (Int32 × (Session × τ)) :=
  .ofRun filter (fun v => [decimal v.toInt]) (Session.next s)

/-- Takes and prints the next readings, up to the first panic. -/
def Session.printAll (filter : List Directive) : Nat → Session × τ → Report
  | 0, _ => .done
  | n + 1, s => (Session.printNext filter s).andThen fun shown => printAll filter n shown.2

/-! ## Runs -/

/-- What a run of the command finds. -/
structure Environment (τ : Type) where
  arguments : List (List UInt8)
  /-- The setting of the log filter. -/
  filter : Option (List UInt8)
  /-- What stands under each path. -/
  files : List UInt8 → FileState
  seeds : τ

/-- A run that prints readings. A panic ends it with the readings printed so far. -/
def runReadings (options : Options) (filter : List Directive) (file : FileState) (seeds : τ) :
    Report :=
  (openSession options filter file seeds).andThen (Session.printAll filter options.count)

/-- A run of the command. The log is set up before the arguments are read. -/
def run (env : Environment τ) : Report :=
  (arrange env.filter env.arguments).andThen fun arranged =>
    runReadings arranged.1 arranged.2 (env.files arranged.1.config) env.seeds

end CommandLine

end DeviceReadings
