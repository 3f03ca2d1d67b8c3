import DeviceReadings.Generator.Block
import DeviceReadings.Generator.Reading

/-!
# The cipher stream

The generator of the `std` backend. It hands out the words of the blocks with counters 0, 1, 2, …
under the key of its seed, each word once and in order. The running form holds the key, the
counter of the next block and the words of the current block that are still to come.
-/

namespace DeviceReadings

/-- A cipher stream between two readings. -/
structure CipherStream where
  key : Key
  /-- The counter of the next block. -/
  counter : UInt64
  /-- The words of the current block that have not been handed out. -/
  pending : List UInt32
  deriving DecidableEq, Repr

namespace CipherStream

/-- The stream of a seed, from its first word. -/
def ofSeed (seed : UInt64) : CipherStream :=
  ⟨Key.ofSeed seed, 0, []⟩

/-- The next word, and the stream after it. A block is computed when the last one is used up. -/
def nextWord (g : CipherStream) : UInt32 × CipherStream :=
  match g.pending with
  | w :: ws => (w, { g with pending := ws })
  | [] =>
    let block := keystreamBlock g.key g.counter
    (block.r0.w0, ⟨g.key, g.counter + 1, block.laterWords⟩)

/-- The next reading, and the stream after it. -/
def next (g : CipherStream) : Int32 × CipherStream :=
  (readingOfWord g.nextWord.1, g.nextWord.2)

end CipherStream

end DeviceReadings
