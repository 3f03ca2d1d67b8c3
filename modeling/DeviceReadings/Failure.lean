/-!
# Failures

What can go wrong between a request for readings and the readings. `Failure.message` gives each
failure its text.
-/

namespace DeviceReadings

/-- Why a seed, a policy or a configuration could not be had. -/
inductive Failure where
  /-- The clock stands before the epoch that seconds are counted from. -/
  | clockBeforeEpoch
  /-- The entropy source gave no seed. -/
  | entropyUnavailable (reason : String)
  /-- The policy is a fixed seed, and none was given. -/
  | missingFixedSeed
  /-- A number that stands for no seed policy. -/
  | unknownPolicyCode (code : UInt32)
  /-- A configuration that cannot be read. -/
  | invalidConfiguration (detail : String)
  deriving DecidableEq, Repr

namespace Failure

/-- The text of a failure. -/
def message : Failure → String
  | clockBeforeEpoch => "system clock is set before the Unix epoch"
  | entropyUnavailable reason => "entropy source unavailable: " ++ reason
  | missingFixedSeed => "fixed seed policy requires 'fixed_seed'"
  | unknownPolicyCode code => "unknown seed policy code " ++ Nat.repr code.toNat
  | invalidConfiguration detail => "invalid reader configuration: " ++ detail

end Failure

end DeviceReadings
