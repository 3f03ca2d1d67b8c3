import DeviceReadings.Effect.Act
import DeviceReadings.Generator.Basic

/-!
# Sources of readings and of seeds

What a reader calls on. A `RandomSource` can be started afresh from a seed and asked for the next
reading; a `SeedSource` can be asked for a seed by the clock and by the entropy source. Any of
these calls may panic, and leaves a state behind either way. The two generators are sources of
readings that never panic, and `SystemSeeds` is the source of seeds of a running system.
-/

namespace DeviceReadings

/-- A source of readings with states of type `σ`. -/
class RandomSource (σ : Type) where
  /-- Starts the source afresh from a seed. -/
  reseed : UInt64 → σ → Outcome Unit × σ
  /-- Draws the next reading. -/
  draw : σ → Outcome Int32 × σ

instance : RandomSource CipherStream where
  reseed seed _ := (.value (), CipherStream.ofSeed seed)
  draw g := (.value g.next.1, g.next.2)

instance : RandomSource ProductFold where
  reseed seed _ := (.value (), ProductFold.ofSeed seed)
  draw g := (.value g.next.1, g.next.2)

instance : RandomSource Generator where
  reseed seed g := (.value (), g.reseed seed)
  draw g := (.value g.next.1, g.next.2)

/-- What a seed question comes to: a seed or a failure, or a panic. -/
abbrev SeedAnswer : Type := Outcome (Except Failure UInt64)

/-- A source of seeds with states of type `τ`. -/
class SeedSource (τ : Type) where
  /-- Asks the clock for a seed. -/
  time : τ → SeedAnswer × τ
  /-- Asks the entropy source for a seed. -/
  entropy : τ → SeedAnswer × τ

/-- The clock and the entropy source of a system at one moment. -/
structure SystemSeeds where
  /-- Whole seconds since the epoch, negative before it. -/
  clock : Int
  /-- What the entropy source gives, or why it gives nothing. -/
  entropy : Except String UInt64

namespace SystemSeeds

/-- The seed by the clock: the seconds since the epoch. -/
def timeSeed (s : SystemSeeds) : Except Failure UInt64 :=
  if s.clock < 0 then .error .clockBeforeEpoch else .ok (UInt64.ofNat s.clock.toNat)

/-- The seed by the entropy source. -/
def entropySeed (s : SystemSeeds) : Except Failure UInt64 :=
  match s.entropy with
  | .ok seed => .ok seed
  | .error reason => .error (.entropyUnavailable reason)

end SystemSeeds

instance : SeedSource SystemSeeds where
  time s := (.value s.timeSeed, s)
  entropy s := (.value s.entropySeed, s)

end DeviceReadings
