import DeviceReadings.Proofs.Reader.Draws
import DeviceReadings.Reader.Lazy

/-!
# What a lazy reader reads from

A lazy reader first makes sure that the reader in its slot fits the policy asked for, and then reads
from it. `LazyReader.prepared` says which reader that is, what seeds are left, and which calls it
took: none if the reader in use fits, and otherwise the complete list that builds a new one.
`LazyReader.read_report` and `LazyReader.read_state` reduce a reading to one of the reader prepared,
whether the lock is poisoned or not.
-/

namespace DeviceReadings

namespace LazyReader

variable {τ : Type} [SeedSource τ]

/-- A reader to read from, with the seeds that are left and the calls that were made for it. -/
structure Prepared (τ : Type) where
  reader : Reader CipherStream
  seeds : τ
  calls : List Call

/-- The reader to read from by a policy: the one in use if it fits, and otherwise a new one. -/
def prepared (policy : SeedPolicy) (slot : Option (Reader CipherStream)) (seeds : τ) :
    Prepared τ :=
  match fitting policy slot with
  | some reader => ⟨reader, seeds, []⟩
  | none =>
    ⟨⟨CipherStream.ofSeed (policySeed policy seeds), policy⟩, seedsAfter policy seeds,
      seedingCalls policy seeds⟩

/-- A fitting reader was built for the policy. -/
theorem fitting_eq_some {policy : SeedPolicy} {slot : Option (Reader CipherStream)}
    {reader : Reader CipherStream} :
    fitting policy slot = some reader ↔ slot = some reader ∧ reader.policy = policy := by
  simp [fitting, Option.filter_eq_some_iff]

/-- A reader that fits is read from as it is. -/
theorem prepared_of_fits {policy : SeedPolicy} {reader : Reader CipherStream}
    (h : reader.policy = policy) (seeds : τ) :
    prepared policy (some reader) seeds = ⟨reader, seeds, []⟩ := by
  rw [prepared, fitting_eq_some.2 ⟨rfl, h⟩]

/-- A slot with a reader for the policy asked for is read from as it is. -/
theorem prepared_some (g : CipherStream) (policy : SeedPolicy) (seeds : τ) :
    prepared policy (some ⟨g, policy⟩) seeds = ⟨⟨g, policy⟩, seeds, []⟩ :=
  prepared_of_fits rfl seeds

/-- Where no reader fits, a new one is built, and the one in the slot is given up. -/
theorem prepared_of_unfit {policy : SeedPolicy} {slot : Option (Reader CipherStream)}
    (h : ∀ reader, slot = some reader → reader.policy ≠ policy) (seeds : τ) :
    prepared policy slot seeds =
      ⟨⟨CipherStream.ofSeed (policySeed policy seeds), policy⟩, seedsAfter policy seeds,
        seedingCalls policy seeds⟩ := by
  unfold prepared
  split
  · next reader hf => exact absurd (fitting_eq_some.1 hf).2 (h reader (fitting_eq_some.1 hf).1)
  · rfl

/-- What is prepared has the policy asked for. -/
@[simp] theorem policy_prepared (policy : SeedPolicy) (slot : Option (Reader CipherStream))
    (seeds : τ) : (prepared policy slot seeds).reader.policy = policy := by
  unfold prepared
  split
  · next h => exact (fitting_eq_some.1 h).2
  · rfl

/-- A build around a cipher stream gives a reader that has just been seeded, since a cipher stream
can be started afresh in any state. -/
theorem build_cipherStream (hs : SeedSource.Answers τ) (policy : SeedPolicy)
    (source : CipherStream) (seeds : τ) :
    let built := Reader.build policy source seeds
    built.outcome = .value ⟨CipherStream.ofSeed (policySeed policy seeds), policy⟩ ∧
      built.state = seedsAfter policy seeds ∧ built.calls = seedingCalls policy seeds :=
  Reader.build_of_answered CipherStream.restarts (hs.first policy seeds) source

/-- Preparing never panics, and comes to what is prepared. It also leaves the new reader in the
slot, where it is found if the reading itself is cut short. -/
theorem prepare_run (hs : SeedSource.Answers τ) (policy : SeedPolicy)
    (slot : Option (Reader CipherStream)) (seeds : τ) :
    let p := prepared policy slot seeds
    (prepare policy (slot, seeds)).outcome = .value p.reader ∧
      (prepare policy (slot, seeds)).state = (some p.reader, p.seeds) ∧
      (prepare policy (slot, seeds)).calls = p.calls := by
  obtain ⟨houtcome, hstate, hcalls⟩ :=
    build_cipherStream hs policy (CipherStream.ofSeed defaultSeed) seeds
  cases hf : fitting policy slot with
  | some reader => simp [prepare, prepared, hf, Run.calls]
  | none => simpa [prepare, prepared, hf, houtcome, hstate, Run.calls] using hcalls

variable (hs : SeedSource.Answers τ) (policy : SeedPolicy) (listener : Listener) (label : Label)
  (reader : LazyReader) (seeds : τ)

include hs in

/-- Behind the lock a reading is one from the reader prepared. -/
theorem bind_run :
    let p := prepared policy reader.value seeds
    let run := Reader.read listener label (p.reader, p.seeds)
    let inner := (prepare policy >>= readFrom listener label) (reader.value, seeds)
    inner.outcome = run.outcome ∧ inner.calls = p.calls ++ run.calls ∧
      inner.state = (some run.state.1, run.state.2) := by
  obtain ⟨houtcome, hstate, hcalls⟩ := prepare_run hs policy reader.value seeds
  intro p run inner
  have hinner : inner = _ := Run.andThen_of_value houtcome (readFrom listener label)
  rw [hinner, Run.calls_mk_append, ← hcalls, hstate]
  exact ⟨rfl, rfl, rfl⟩

include hs in
/-- A reading makes the calls of what is prepared and then those of a reading from it, and comes to
what that reading comes to. -/
theorem read_report :
    let p := prepared policy reader.value seeds
    let run := Reader.read listener label (p.reader, p.seeds)
    (LazyReader.read policy listener label (reader, seeds)).report =
      (run.outcome, p.calls ++ run.calls) := by
  obtain ⟨houtcome, hcalls, -⟩ := bind_run hs policy listener label reader seeds
  exact Prod.ext houtcome hcalls

include hs in
/-- A reading leaves the reader prepared in the slot, as the reading left it. -/
theorem read_state :
    let p := prepared policy reader.value seeds
    let run := Reader.read listener label (p.reader, p.seeds)
    (LazyReader.read policy listener label (reader, seeds)).state.1.value = some run.state.1 ∧
      (LazyReader.read policy listener label (reader, seeds)).state.2 = run.state.2 := by
  obtain ⟨-, -, hstate⟩ := bind_run hs policy listener label reader seeds
  exact ⟨congrArg Prod.fst hstate, congrArg Prod.snd hstate⟩

include hs in

/-- After a reading the reader that was read from is prepared for the same policy, as the reading
left it. So nothing is built as long as the policy stays the same. -/
theorem prepared_read :
    let p := prepared policy reader.value seeds
    let run := Reader.read listener label (p.reader, p.seeds)
    let state := (LazyReader.read policy listener label (reader, seeds)).state
    prepared policy state.1.value state.2 = ⟨run.state.1, run.state.2, []⟩ := by
  obtain ⟨hvalue, hseeds⟩ := read_state hs policy listener label reader seeds
  intro p run state
  have hpolicy : run.state.1.policy = policy := policy_prepared policy reader.value seeds
  rw [show state.1.value = some run.state.1 from hvalue, prepared_of_fits hpolicy,
    show state.2 = run.state.2 from hseeds]

end LazyReader

end DeviceReadings
