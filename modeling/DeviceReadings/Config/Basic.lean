import DeviceReadings.Generator.Basic
import DeviceReadings.Reader.Basic

/-!
# Configurations

A configuration names a seed policy, the seed of the fixed policy, and a backend.
`Config.policy` is the seed policy that it comes to: the fixed policy needs a seed. A reader is
built by a configuration with `Reader.ofConfig`.
-/

namespace DeviceReadings

/-- A seed policy, without its seed. -/
inductive PolicyKind where
  | processDefault
  | time
  | fixed
  | entropy
  deriving DecidableEq, Repr

/-- How a reader is to be set up. -/
structure Config where
  seedPolicy : PolicyKind
  fixedSeed : Option UInt64
  backend : Backend
  deriving DecidableEq, Repr

namespace PolicyKind

/-- The policy as the log shows it. -/
def label : PolicyKind → String
  | processDefault => "ProcessDefault"
  | time => "Time"
  | fixed => "Fixed"
  | entropy => "Entropy"

end PolicyKind

/-- The backend as the log shows it. -/
def Backend.label : Backend → String
  | std => "Std"
  | fast => "Fast"

namespace Config

/-- The configuration that nobody has changed. -/
def default : Config :=
  ⟨.processDefault, none, .std⟩

instance : Inhabited Config := ⟨default⟩

/-- The seed policy of a configuration. -/
def policy (c : Config) : Except Failure SeedPolicy :=
  match c.seedPolicy with
  | .processDefault => .ok .processDefault
  | .time => .ok .time
  | .fixed =>
    match c.fixedSeed with
    | some seed => .ok (.fixed seed)
    | none => .error .missingFixedSeed
  | .entropy => .ok .entropy

/-- Does the configuration have a seed policy? -/
def validate (c : Config) : Except Failure Unit :=
  c.policy.map fun _ => ()

/-- The configuration as the log shows it. -/
def label (c : Config) : String :=
  let seed :=
    match c.fixedSeed with
    | some seed => "Some(" ++ Nat.repr seed.toNat ++ ")"
    | none => "None"
  "ReaderConfig \x7b seed_policy: " ++ c.seedPolicy.label ++ ", fixed_seed: " ++ seed ++
    ", backend: " ++ c.backend.label ++ " \x7d"

end Config

/-- Builds a reader by a configuration, or says why the configuration has no seed policy. -/
def Reader.ofConfig {τ : Type} [SeedSource τ] (c : Config) (seeds : τ) :
    Except Failure (Run τ (Reader Generator)) :=
  c.policy.map fun policy => Reader.build policy (Generator.ofSeed c.backend defaultSeed) seeds

end DeviceReadings
