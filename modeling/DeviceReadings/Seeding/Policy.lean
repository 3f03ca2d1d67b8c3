import DeviceReadings.Failure

/-!
# Seed policies

A seed policy says where a reader's seeds come from and how often. Only the time policy asks for
a seed at every reading (`SeedPolicy.reseedsPerRead`); under the others a reader is seeded once.
-/

namespace DeviceReadings

/-- Where the seeds of a reader come from. -/
inductive SeedPolicy where
  /-- Once, the default seed. -/
  | processDefault
  /-- The clock, before every reading. -/
  | time
  /-- Once, a given seed. -/
  | fixed (seed : UInt64)
  /-- Once, the entropy source. -/
  | entropy
  deriving DecidableEq, Repr

namespace SeedPolicy

instance : Inhabited SeedPolicy := ⟨processDefault⟩

/-- The policy of a code; the seed is used by code 2 alone. -/
def ofCode (code : UInt32) (seed : UInt64) : Except Failure SeedPolicy :=
  match code.toNat with
  | 0 => .ok processDefault
  | 1 => .ok time
  | 2 => .ok (fixed seed)
  | 3 => .ok entropy
  | _ => .error (.unknownPolicyCode code)

/-- Is the source seeded anew at every reading? -/
def reseedsPerRead : SeedPolicy → Bool
  | time => true
  | _ => false

/-- The policy as the log shows it. -/
def label : SeedPolicy → String
  | processDefault => "ProcessDefault"
  | time => "Time"
  | fixed seed => "Fixed(" ++ Nat.repr seed.toNat ++ ")"
  | entropy => "Entropy"

end SeedPolicy

end DeviceReadings
