import DeviceReadings.Reader.Basic

/-!
# Readers behind a lock

A `Lock` guards a value that several callers share. A holder that panics poisons the lock, and
later holders take it all the same and go on with the value as it was left (`Lock.hold`). A
`SharedReader` is a reader behind a lock.
-/

namespace DeviceReadings

/-- A guarded value. -/
structure Lock (α : Type) where
  value : α
  /-- Has a holder panicked? -/
  poisoned : Bool
  deriving DecidableEq, Repr

namespace Lock

variable {S τ α : Type}

/-- The lock around a value that nobody has held yet. -/
def around (value : S) : Lock S :=
  ⟨value, false⟩

/-- Does a run end in a panic? -/
def isPanic : Outcome α → Bool
  | .value _ => false
  | .panicked => true

/-- An action on the guarded value, poisoned or not. -/
def hold (act : Act (S × τ) α) : Act (Lock S × τ) α :=
  fun s =>
    let run := act (s.1.value, s.2)
    run.mapState fun t => (⟨t.1, s.1.poisoned || isPanic run.outcome⟩, t.2)

end Lock

/-- A reader that several callers share. -/
abbrev SharedReader (σ : Type) : Type := Lock (Reader σ)

namespace SharedReader

variable {σ τ : Type} [RandomSource σ] [SeedSource τ]

/-- Takes a reading from a shared reader. -/
def read (listener : Listener) (label : Label) : Act (SharedReader σ × τ) Int32 :=
  Lock.hold (Reader.read listener label)

end SharedReader

end DeviceReadings
