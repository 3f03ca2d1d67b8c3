import DeviceReadings.Generator.Reading

/-!
# The product fold

The generator of the `fast` backend. Its state is one 64-bit word, to which every draw adds an odd
constant. The word drawn is a 128-bit product of the new state, folded to 64 bits by the exclusive
or of its halves, of which the lower 32 bits are kept.
-/

namespace DeviceReadings

/-- A product fold between two readings. -/
structure ProductFold where
  state : UInt64
  deriving DecidableEq, Repr

namespace ProductFold

/-- What a draw adds to the state. It is odd, so the states run through all words. -/
def increment : UInt64 := 0x2d358dccaa6c78a5

/-- What the state is combined with to give the second factor of the product. -/
def mask : UInt64 := 0x8bb84b93962eacc9

/-- The fold of a seed, before its first reading. -/
def ofSeed (seed : UInt64) : ProductFold :=
  ⟨seed⟩

/-- The halves of the product of `s` and `s ^^^ mask`, combined by exclusive or. -/
def fold (s : UInt64) : UInt64 :=
  let product := s.toNat * (s ^^^ mask).toNat
  UInt64.ofNat product ^^^ UInt64.ofNat (product / UInt64.size)

/-- The next reading, and the generator after it. -/
def next (g : ProductFold) : Int32 × ProductFold :=
  let s := g.state + increment
  (readingOfWord (fold s).toUInt32, ⟨s⟩)

end ProductFold

end DeviceReadings
