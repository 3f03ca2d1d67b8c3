import DeviceReadings.Reader.Lock

/-!
# Readers built at the first reading

A `LazyReader` starts without a reader. The first reading builds one around a cipher stream, and
later readings go on with it as long as they ask for the same policy; a reading by another policy
drops it and builds a new one. All of this happens under a lock.
-/

namespace DeviceReadings

/-- A lock around the reader in use, if one has been built. -/
abbrev LazyReader : Type := Lock (Option (Reader CipherStream))

namespace LazyReader

variable {τ : Type} [SeedSource τ]

/-- The lazy reader that has not been asked yet. -/
def unbuilt : LazyReader :=
  Lock.around none

/-- The reader in use, if it was built for the policy. -/
def fitting (policy : SeedPolicy) (slot : Option (Reader CipherStream)) :
    Option (Reader CipherStream) :=
  slot.filter (·.policy = policy)

/-- Makes sure that the reader in use was built for the policy. -/
def prepare (policy : SeedPolicy) : Act (Option (Reader CipherStream) × τ) (Reader CipherStream) :=
  fun s =>
    match fitting policy s.1 with
    | some reader => ⟨.value reader, (some reader, s.2), []⟩
    | none =>
      let run := Reader.build policy (CipherStream.ofSeed defaultSeed) s.2
      match run.outcome with
      | .value reader => ⟨.value reader, (some reader, run.state), run.trace⟩
      | .panicked => ⟨.panicked, (none, run.state), run.trace⟩

/-- Takes a reading from the reader in use. -/
def readFrom (listener : Listener) (label : Label) (reader : Reader CipherStream) :
    Act (Option (Reader CipherStream) × τ) Int32 :=
  fun s => (Reader.read listener label (reader, s.2)).mapState fun t => (some t.1, t.2)

/-- Takes a reading by a policy. -/
def read (policy : SeedPolicy) (listener : Listener) (label : Label) : Act (LazyReader × τ) Int32 :=
  Lock.hold (do readFrom listener label (← prepare policy))

end LazyReader

end DeviceReadings
