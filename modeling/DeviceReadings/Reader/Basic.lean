import DeviceReadings.Source.Basic

/-!
# Readers

A reader owns a source of readings and the policy by which it is seeded. `Reader.build` seeds the
source once, and `Reader.read` draws a reading from it; under the time policy it first seeds the
source again. A seed that cannot be had is replaced by the default seed, with a warning.

The device and the model of a reading are logged and have no other use. The sources of readings
and of seeds stand side by side as the state of the actions here (`σ × τ`).
-/

namespace DeviceReadings

/-- How the subscriber of the log takes the event that announces a reading. -/
inductive Listener where
  /-- It writes the event down. -/
  | recording
  /-- It panics, and the event is lost. -/
  | failing
  deriving DecidableEq, Repr

/-- Whom a reading is for. -/
structure Label where
  device : Int32
  model : Option String
  deriving DecidableEq, Repr

section Seeding

variable {σ τ : Type} [RandomSource σ] [SeedSource τ]

/-- Asks the clock. -/
def askClock : Act (σ × τ) (Except Failure UInt64) :=
  .perform .timeSeed fun s => ((SeedSource.time s.2).1, (s.1, (SeedSource.time s.2).2))

/-- Asks the entropy source. -/
def askEntropy : Act (σ × τ) (Except Failure UInt64) :=
  .perform .entropySeed fun s => ((SeedSource.entropy s.2).1, (s.1, (SeedSource.entropy s.2).2))

/-- Starts the source of readings afresh. -/
def reseedSource (seed : UInt64) : Act (σ × τ) Unit :=
  .perform (.reseed seed) fun s =>
    ((RandomSource.reseed seed s.1).1, ((RandomSource.reseed seed s.1).2, s.2))

/-- Draws from the source of readings. -/
def drawReading : Act (σ × τ) Int32 :=
  .perform .draw fun s => ((RandomSource.draw s.1).1, ((RandomSource.draw s.1).2, s.2))

/-- The seed of an answer; for a failure the default seed, with a warning. -/
def seedOrDefault : Except Failure UInt64 → Act (σ × τ) UInt64
  | .ok seed => pure seed
  | .error cause => do
    .emit (.fallback cause)
    pure defaultSeed

/-- The seed by the clock. -/
def clockSeed : Act (σ × τ) UInt64 := do
  seedOrDefault (← askClock)

/-- The seed that a reader starts with. -/
def initialSeed : SeedPolicy → Act (σ × τ) UInt64
  | .processDefault => pure defaultSeed
  | .fixed seed => pure seed
  | .time => clockSeed
  | .entropy => do seedOrDefault (← askEntropy)

/-- Seeds the source of a new reader. -/
def seedSource (policy : SeedPolicy) : Act (σ × τ) Unit := do
  let seed ← initialSeed policy
  .emit (.seeding policy seed)
  reseedSource seed

/-- Announces a reading to the log. -/
def announce (listener : Listener) (label : Label) : Act (σ × τ) Unit :=
  match listener with
  | .recording => .emit (.read label.device label.model)
  | .failing => .abort

/-- Takes a reading under a policy. -/
def takeReading (policy : SeedPolicy) (listener : Listener) (label : Label) :
    Act (σ × τ) Int32 := do
  announce listener label
  if policy.reseedsPerRead then
    reseedSource (← clockSeed)
  drawReading

end Seeding

/-- A source of readings with the policy by which it is seeded. -/
structure Reader (σ : Type) where
  source : σ
  policy : SeedPolicy
  deriving DecidableEq, Repr

namespace Reader

variable {σ τ : Type} [RandomSource σ] [SeedSource τ]

/-- Builds a reader around a source, which is seeded by the policy first. -/
def build (policy : SeedPolicy) (source : σ) (seeds : τ) : Run τ (Reader σ) :=
  let run := seedSource policy (source, seeds)
  match run.outcome with
  | .value () => ⟨.value ⟨run.state.1, policy⟩, run.state.2, run.trace⟩
  | .panicked => ⟨.panicked, run.state.2, run.trace⟩

/-- Takes a reading from a reader. -/
def read (listener : Listener) (label : Label) : Act (Reader σ × τ) Int32 :=
  fun s =>
    (takeReading s.1.policy listener label (s.1.source, s.2)).mapState
      fun t => (⟨t.1, s.1.policy⟩, t.2)

end Reader

end DeviceReadings
