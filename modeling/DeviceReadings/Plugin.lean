import DeviceReadings.Reader.Lazy
import DeviceReadings.Text.Utf8

/-!
# The plugin

What a host program can do with the plugin: read from the process-wide reader, read from lazy
readers of its own, and hold readers by handles. The host passes a model as bytes that end with the
first zero byte (`modelText`).

A `Plugin` is the state of all these, one part per `Component`. `Plugin.perform` does one
`Operation` with what the clock and the entropy source have to say meanwhile; it touches only the
component of the operation (`Operation.component`).
-/

namespace DeviceReadings

/-! ## What the host passes -/

/-- The text of a model: the bytes before the first zero byte, if they are a text. -/
def modelText (bytes : List UInt8) : Option String :=
  (Utf8.decode? (bytes.takeWhile (· ≠ 0))).map String.ofList

/-- The two builds of the plugin. -/
inductive Build where
  | standard
  | timeSeeded
  deriving DecidableEq, Repr

/-- The policy of the exported read in a build. -/
def Build.policy : Build → SeedPolicy
  | standard => .processDefault
  | timeSeeded => .time

/-- The answer of a read from a handle that holds no reader. It is no reading. -/
def readError : Int32 := -1

/-! ## Components and operations -/

/-- A part of the plugin's state. -/
inductive Component where
  /-- The process-wide reader. -/
  | process
  /-- A lazy reader of the host's own. -/
  | own (slot : Nat)
  /-- A handle of the host's. -/
  | handle (slot : Nat)
  deriving DecidableEq, Repr

/-- Something that a host asks for. -/
inductive Operation where
  /-- Reads from the process-wide reader, by the policy of the build. -/
  | exportedRead (device : Int32) (model : Option (List UInt8))
  /-- Reads from the process-wide reader, by a policy. -/
  | processRead (policy : SeedPolicy) (listener : Listener) (label : Label)
  /-- Reads from a lazy reader of the host's own, by a policy. -/
  | ownRead (slot : Nat) (policy : SeedPolicy) (listener : Listener) (label : Label)
  /-- Frees what a handle holds, and puts a new reader there if the code stands for a policy. -/
  | newHandle (slot : Nat) (code : UInt32) (seed : UInt64)
  /-- Reads from a handle. -/
  | readHandle (slot : Nat) (device : Int32) (model : Option (List UInt8))
  /-- Frees what a handle holds. -/
  | freeHandle (slot : Nat)
  deriving DecidableEq, Repr

/-- The component that an operation is on. -/
def Operation.component : Operation → Component
  | exportedRead .. | processRead .. => .process
  | ownRead slot .. => .own slot
  | newHandle slot .. | readHandle slot .. | freeHandle slot => .handle slot

/-- What a host gets. -/
inductive Answer where
  | reading (value : Int32)
  /-- Is there a reader behind the new handle? -/
  | handle (granted : Bool)
  | done
  deriving DecidableEq, Repr

/-- The state of a plugin. -/
structure Plugin where
  process : LazyReader
  own : Nat → LazyReader
  handles : Nat → Option (Reader CipherStream)

namespace Plugin

variable {τ : Type} [SeedSource τ]

/-- The plugin of a fresh process. -/
def fresh : Plugin :=
  ⟨LazyReader.unbuilt, fun _ => LazyReader.unbuilt, fun _ => none⟩

/-- A family of states with one of them replaced. -/
def update {α : Type} (slots : Nat → α) (slot : Nat) (a : α) : Nat → α :=
  fun i => if i = slot then a else slots i

/-! ## Operations on one component -/

/-- Puts a new reader behind a handle. Whatever was there is gone first. -/
def newReader (code : UInt32) (seed : UInt64) :
    Act (Option (Reader CipherStream) × τ) Answer :=
  fun s =>
    match SeedPolicy.ofCode code seed with
    | .error cause => ⟨.value (.handle false), (none, s.2), [.event (.rejected cause)]⟩
    | .ok policy =>
      let run := Reader.build policy (CipherStream.ofSeed defaultSeed) s.2
      match run.outcome with
      | .value reader => ⟨.value (.handle true), (some reader, run.state), run.trace⟩
      | .panicked => ⟨.panicked, (none, run.state), run.trace⟩

/-- Reads from what a handle holds. -/
def readReader (label : Label) : Act (Option (Reader CipherStream) × τ) Answer :=
  fun s =>
    match s.1 with
    | none => ⟨.value (.reading readError), s, []⟩
    | some reader =>
      ((Reader.read .recording label (reader, s.2)).andThen fun value t =>
        ⟨.value (.reading value), t, []⟩).mapState fun t => (some t.1, t.2)

/-- Reads from a lazy reader. -/
def readLazy (policy : SeedPolicy) (listener : Listener) (label : Label) :
    Act (LazyReader × τ) Answer :=
  do return .reading (← LazyReader.read policy listener label)

/-! ## Operations on the plugin -/

/-- An action on the process-wide reader. -/
def onProcess (act : Act (LazyReader × τ) Answer) : Act (Plugin × τ) Answer :=
  fun s => (act (s.1.process, s.2)).mapState fun t => ({ s.1 with process := t.1 }, t.2)

/-- An action on a lazy reader of the host's own. -/
def onOwn (slot : Nat) (act : Act (LazyReader × τ) Answer) : Act (Plugin × τ) Answer :=
  fun s =>
    (act (s.1.own slot, s.2)).mapState fun t => ({ s.1 with own := update s.1.own slot t.1 }, t.2)

/-- An action on a handle. -/
def onHandle (slot : Nat) (act : Act (Option (Reader CipherStream) × τ) Answer) :
    Act (Plugin × τ) Answer :=
  fun s =>
    (act (s.1.handles slot, s.2)).mapState fun t =>
      ({ s.1 with handles := update s.1.handles slot t.1 }, t.2)

/-- Does an operation. -/
def perform (build : Build) : Operation → Act (Plugin × τ) Answer
  | .exportedRead device model =>
    onProcess (readLazy build.policy .recording ⟨device, model.bind modelText⟩)
  | .processRead policy listener label => onProcess (readLazy policy listener label)
  | .ownRead slot policy listener label => onOwn slot (readLazy policy listener label)
  | .newHandle slot code seed => onHandle slot (newReader code seed)
  | .readHandle slot device model => onHandle slot (readReader ⟨device, model.bind modelText⟩)
  | .freeHandle slot => onHandle slot fun s => ⟨.value .done, (none, s.2), []⟩

end Plugin

end DeviceReadings
