import DeviceReadings.Generator.CipherStream
import DeviceReadings.Generator.ProductFold

/-!
# Generators chosen at run time

A `Backend` names one of the two generators, and a `Generator` is one of either kind. Both kinds
are driven alike: `Generator.next` draws a reading, and `Generator.reseed` starts the generator
afresh from a seed, whatever was drawn before.
-/

namespace DeviceReadings

/-- The kind of generator behind a reader. -/
inductive Backend where
  /-- The cipher stream. -/
  | std
  /-- The product fold. -/
  | fast
  deriving DecidableEq, Repr

/-- A generator of either kind. -/
inductive Generator where
  | std (g : CipherStream)
  | fast (g : ProductFold)
  deriving DecidableEq, Repr

/-- The seed of a generator or reader that nobody has given another one. -/
def defaultSeed : UInt64 := 1

namespace Generator

/-- A new generator of a kind, from a seed. -/
def ofSeed : Backend → UInt64 → Generator
  | .std, seed => .std (CipherStream.ofSeed seed)
  | .fast, seed => .fast (ProductFold.ofSeed seed)

/-- The kind of a generator. -/
def backend : Generator → Backend
  | .std _ => .std
  | .fast _ => .fast

/-- The generator started afresh from a seed. -/
def reseed (seed : UInt64) (g : Generator) : Generator :=
  ofSeed g.backend seed

/-- The next reading, and the generator after it. -/
def next : Generator → Int32 × Generator
  | .std g => (g.next.1, .std g.next.2)
  | .fast g => (g.next.1, .fast g.next.2)

/-- The generator after `n` readings. -/
def skip : Nat → Generator → Generator
  | 0, g => g
  | n + 1, g => skip n g.next.2

/-- The next `n` readings. -/
def take : Nat → Generator → List Int32
  | 0, _ => []
  | n + 1, g => g.next.1 :: take n g.next.2

/-- A fresh generator is of the backend that it is made for, whatever the seed. -/
@[simp] theorem backend_ofSeed (backend : Backend) (seed : UInt64) :
    (ofSeed backend seed).backend = backend := by
  cases backend <;> rfl

/-- Drawing does not change the backend, and so a generator keeps its own through any number of
readings. -/
@[simp] theorem backend_next (g : Generator) : g.next.2.backend = g.backend := by
  cases g <;> simp only [next, backend]

end Generator

end DeviceReadings
