import DeviceReadings.Proofs.Effect.History
import DeviceReadings.Reader.Lock
import DeviceReadings.Source.Replay

/-!
# The calls of a reader

Which calls a reader makes on its sources, in which order, and what is left of them when one
panics. A policy fixes a complete list of calls for building a reader (`seedingCalls`) and one for
a reading (`readingCalls`); `attempt` makes the calls of a list until one of them panics.

`Reader.build_report` and `Reader.read_attempts` say that building and reading attempt exactly these
lists, and `reader_attempts_call_lists` says it of a whole life of a reader, held directly or behind
a lock: every reading attempts its complete list again, from where the last call left the sources.
-/

namespace DeviceReadings

variable {σ τ : Type} [RandomSource σ] [SeedSource τ]

/-! ## Lists of calls -/

/-- The seed that a reader makes of an answer. After a panic there is none to be made. -/
def seedOf : SeedAnswer → UInt64
  | .value (.ok seed) => seed
  | .value (.error _) => 1
  | .panicked => 1

/-- The complete list of calls for building a reader by a policy. -/
def seedingCalls (policy : SeedPolicy) (seeds : τ) : List Call :=
  match policy with
  | .processDefault => [.reseed 1]
  | .fixed seed => [.reseed seed]
  | .time => [.timeSeed, .reseed (seedOf (SeedSource.time seeds).1)]
  | .entropy => [.entropySeed, .reseed (seedOf (SeedSource.entropy seeds).1)]

/-- The complete list of calls for a reading by a policy. -/
def readingCalls (policy : SeedPolicy) (seeds : τ) : List Call :=
  match policy with
  | .time => [.timeSeed, .reseed (seedOf (SeedSource.time seeds).1), .draw]
  | .processDefault | .fixed _ | .entropy => [.draw]

/-- What a call comes to: the reading if it is a draw, or a panic. The source that was called is
left in another state either way. -/
def Call.answer : Call → σ × τ → Outcome (Option Int32) × (σ × τ)
  | .timeSeed, s => ((SeedSource.time s.2).1.map fun _ => none, s.1, (SeedSource.time s.2).2)
  | .entropySeed, s =>
    ((SeedSource.entropy s.2).1.map fun _ => none, s.1, (SeedSource.entropy s.2).2)
  | .reseed seed, s =>
    ((RandomSource.reseed seed s.1).1.map fun _ => none, (RandomSource.reseed seed s.1).2, s.2)
  | .draw, s => ((RandomSource.draw s.1).1.map some, (RandomSource.draw s.1).2, s.2)

/-- How it went to make the calls of a list: the readings drawn or a panic, the calls made, and the
sources as they were left. -/
structure Tried (S : Type) where
  outcome : Outcome (List Int32)
  made : List Call
  state : S

namespace Tried

variable {S : Type}

/-- What is seen of it without looking into the sources. -/
def report (t : Tried S) : Outcome (List Int32) × List Call :=
  (t.outcome, t.made)

/-- Goes on with more calls, unless one has panicked. -/
def andThen (t : Tried S) (later : S → Tried S) : Tried S :=
  match t.outcome with
  | .panicked => t
  | .value readings =>
    ⟨(later t.state).outcome.map (readings ++ ·), t.made ++ (later t.state).made,
      (later t.state).state⟩

end Tried

/-- Makes the calls of a list in order, up to and including the first one that panics. -/
def attempt : List Call → σ × τ → Tried (σ × τ)
  | [], s => ⟨.value [], [], s⟩
  | c :: rest, s =>
    match c.answer s with
    | (.panicked, s') => ⟨.panicked, [c], s'⟩
    | (.value reading, s') => Tried.andThen ⟨.value reading.toList, [c], s'⟩ (attempt rest)

/-- All calls are made if none of them panics; otherwise the last one made is one that panics, in
the state in which those before it left the sources. -/
theorem attempt_cases (calls : List Call) (s : σ × τ) :
    (∃ readings, (attempt calls s).report = (.value readings, calls)) ∨
      ∃ before c after, calls = before ++ c :: after ∧
        (attempt calls s).report = (.panicked, before ++ [c]) ∧
        (c.answer (attempt before s).state).1 = .panicked := by
  induction calls generalizing s with
  | nil => exact .inl ⟨[], rfl⟩
  | cons c rest ih =>
    rcases hc : c.answer s with ⟨o, s'⟩
    cases o with
    | panicked =>
      exact .inr ⟨[], c, rest, rfl, by simp [attempt, hc, Tried.report], by simp [attempt, hc]⟩
    | value reading =>
      rcases ih s' with ⟨readings, h⟩ | ⟨before, c', after, rfl, h, hp⟩
      all_goals simp only [Tried.report, Prod.mk.injEq] at h
      · exact .inl ⟨reading.toList ++ readings,
          by simp [attempt, hc, Tried.report, Tried.andThen, h]⟩
      · exact .inr ⟨c :: before, c', after, rfl,
          by simp [attempt, hc, Tried.report, Tried.andThen, h],
          by simpa [attempt, hc, Tried.andThen] using hp⟩

/-- No call is made that is not in the list. -/
theorem mem_of_mem_made {c : Call} {calls : List Call} {s : σ × τ}
    (h : c ∈ (attempt calls s).made) : c ∈ calls := by
  rcases attempt_cases calls s with ⟨readings, hall⟩ | ⟨before, last, after, rfl, hcut, -⟩
  · have hmade : (attempt calls s).made = calls := congrArg Prod.snd hall
    rwa [hmade] at h
  · have hmade : (attempt (before ++ last :: after) s).made = before ++ [last] :=
      congrArg Prod.snd hcut
    rw [hmade, List.mem_append, List.mem_singleton] at h
    rcases h with hbefore | rfl
    · exact List.mem_append_left _ hbefore
    · exact List.mem_append_right _ List.mem_cons_self

/-- The calls of two lists are made one list after the other, unless the first one ends early. The
induction is on the first list. -/
theorem attempt_append (first later : List Call) (s : σ × τ) :
    attempt (first ++ later) s = (attempt first s).andThen (attempt later) := by
  induction first generalizing s with
  | nil => simp [attempt, Tried.andThen]
  | cons c rest ih =>
    rcases hc : c.answer s with ⟨o, s'⟩
    cases o with
    | panicked => simp [attempt, hc, Tried.andThen]
    | value reading =>
      cases hr : (attempt rest s').outcome <;>
        simp [attempt, hc, ih, hr, Tried.andThen, Outcome.map_map, Function.comp_def]

/-! ## Actions that attempt a list -/

/-- From a state an action makes the calls of a list until one panics, leaves the sources as these
calls do, and comes to a value that stands for the readings drawn. -/
structure Attempts {α : Type} (x : Act (σ × τ) α) (s : σ × τ) (calls : List Call)
    (readings : α → List Int32) : Prop where
  report : ((x s).outcome.map readings, (x s).calls) = (attempt calls s).report
  state : (x s).state = (attempt calls s).state

namespace Attempts

variable {α β : Type} {s : σ × τ}

/-- Events are no calls. -/
theorem emit (e : Event) (s : σ × τ) : Attempts (Act.emit e) s [] fun _ => [] :=
  ⟨rfl, rfl⟩

/-- An action that attempts a list and draws nothing, followed by one that attempts another list,
attempts both. The later list may depend on where the first action leaves the sources. -/
theorem bind {x : Act (σ × τ) α} {k : α → Act (σ × τ) β} {first later : List Call}
    {readings : β → List Int32} (hx : Attempts x s first fun _ => [])
    (hk : ∀ a, (x s).outcome = .value a → Attempts (k a) (x s).state later readings) :
    Attempts (x >>= k) s (first ++ later) readings := by
  obtain ⟨hreport, hstate⟩ := hx
  simp only [Tried.report, Prod.mk.injEq] at hreport
  obtain ⟨houtcome, hcalls⟩ := hreport
  cases ho : (x s).outcome with
  | panicked =>
    -- The first list ends early, and none of the later calls is made.
    rw [ho, Outcome.map_panicked] at houtcome
    have htried : (attempt first s).andThen (attempt later) = attempt first s := by
      simp [Tried.andThen, ← houtcome]
    refine ⟨?_, ?_⟩
    · rw [attempt_append, htried, Act.bind_apply, Run.andThen_of_panicked ho]
      simp only [Tried.report, Outcome.map_panicked, ← houtcome, ← hcalls]
      rfl
    · rw [attempt_append, htried, Act.bind_apply, Run.andThen_of_panicked ho, ← hstate]
  | value a =>
    obtain ⟨hreport', hstate'⟩ := hk a ho
    simp only [Tried.report, Prod.mk.injEq] at hreport'
    obtain ⟨houtcome', hcalls'⟩ := hreport'
    rw [ho, Outcome.map_value] at houtcome
    rw [hstate] at houtcome' hcalls' hstate'
    refine ⟨?_, ?_⟩
    · rw [attempt_append, Act.bind_apply, Run.andThen_of_value ho, Run.calls_mk_append, hstate]
      simp only [Tried.report, Tried.andThen, ← houtcome, List.nil_append, Outcome.map_id_fun,
        houtcome', hcalls', ← hcalls]
      rfl
    · rw [attempt_append, Act.bind_apply, Run.andThen_of_value ho, hstate, hstate']
      simp only [Tried.andThen, ← houtcome]

end Attempts

/-! ## What a reader does, action by action -/

/-- An action that is one call attempts that call. -/
theorem perform_attempts {α : Type} (c : Call) (f : σ × τ → Outcome α × (σ × τ)) (s : σ × τ)
    (readings : α → List Int32)
    (hvalue : ∀ a s', f s = (.value a, s') →
      ∃ reading, c.answer s = (.value reading, s') ∧ reading.toList = readings a)
    (hpanic : ∀ s', f s = (.panicked, s') → c.answer s = (.panicked, s')) :
    Attempts (.perform c f) s [c] readings := by
  rcases hf : f s with ⟨o, s'⟩
  cases o with
  | panicked =>
    constructor <;> simp [Act.perform, hf, attempt, hpanic s' hf, Tried.report, Run.calls,
      Effect.call?]
  | value a =>
    obtain ⟨reading, hc, hreading⟩ := hvalue a s' hf
    constructor <;> simp [Act.perform, hf, attempt, hc, hreading, Tried.report, Run.calls,
      Effect.call?, Tried.andThen]

/-- To ask the clock is one call, for a seed by the time. -/
theorem askClock_attempts (s : σ × τ) : Attempts askClock s [.timeSeed] fun _ => [] := by
  refine perform_attempts _ _ s _ (fun a s' h => ⟨none, ?_, rfl⟩) fun s' h => ?_
  all_goals simp only [Prod.mk.injEq] at h
  all_goals simp [Call.answer, h.1, ← h.2]

/-- To ask the entropy source is one call. -/
theorem askEntropy_attempts (s : σ × τ) : Attempts askEntropy s [.entropySeed] fun _ => [] := by
  refine perform_attempts _ _ s _ (fun a s' h => ⟨none, ?_, rfl⟩) fun s' h => ?_
  all_goals simp only [Prod.mk.injEq] at h
  all_goals simp [Call.answer, h.1, ← h.2]

/-- To start the source afresh is one call, which names the seed. -/
theorem reseedSource_attempts (seed : UInt64) (s : σ × τ) :
    Attempts (reseedSource seed) s [.reseed seed] fun _ => [] := by
  refine perform_attempts _ _ s _ (fun a s' h => ⟨none, ?_, rfl⟩) fun s' h => ?_
  all_goals simp only [Prod.mk.injEq] at h
  all_goals simp [Call.answer, h.1, ← h.2]

/-- To draw a reading is one call, and the only one that gives a reading. -/
theorem drawReading_attempts (s : σ × τ) : Attempts drawReading s [.draw] fun value => [value] := by
  refine perform_attempts _ _ s _ (fun a s' h => ⟨some a, ?_, rfl⟩) fun s' h => ?_
  all_goals simp only [Prod.mk.injEq] at h
  all_goals simp [Call.answer, h.1, ← h.2]

/-- Making a seed of an answer takes no call, and comes to the seed of the answer. -/
theorem seedOrDefault_attempts (answer : Except Failure UInt64) (s : σ × τ) :
    Attempts (seedOrDefault answer) s [] (fun _ => []) ∧
      (seedOrDefault answer s).outcome = .value (seedOf (.value answer)) := by
  cases answer <;> exact ⟨⟨rfl, rfl⟩, rfl⟩

/-- The question that a policy asks for the first seed. -/
def seedQuery : SeedPolicy → List Call
  | .processDefault | .fixed _ => []
  | .time => [.timeSeed]
  | .entropy => [.entropySeed]

/-- The first seed by a policy. -/
def policySeed (policy : SeedPolicy) (seeds : τ) : UInt64 :=
  match policy with
  | .processDefault => 1
  | .fixed seed => seed
  | .time => seedOf (SeedSource.time seeds).1
  | .entropy => seedOf (SeedSource.entropy seeds).1

/-- The calls that build a reader are the question of the policy, if it has one, and a fresh start
by the seed that comes of it. -/
theorem seedingCalls_eq (policy : SeedPolicy) (seeds : τ) :
    seedingCalls policy seeds = seedQuery policy ++ [.reseed (policySeed policy seeds)] := by
  cases policy <;> rfl

/-- A seed by the clock takes the one question, whatever the answer is. -/
theorem clockSeed_attempts (s : σ × τ) : Attempts clockSeed s [.timeSeed] fun _ => [] :=
  .bind (askClock_attempts s) fun answer _ => (seedOrDefault_attempts answer _).1

/-- The seed by the clock is that of the clock's answer, with the default seed for a failure. -/
theorem clockSeed_value {s : σ × τ} {seed : UInt64} (h : (clockSeed s).outcome = .value seed) :
    seed = seedOf (SeedSource.time s.2).1 := by
  unfold clockSeed at h
  rw [Act.bind_apply] at h
  cases ha : (askClock s).outcome with
  | panicked => rw [Run.andThen_of_panicked ha] at h; cases h
  | value answer =>
    rw [Run.andThen_of_value ha, (seedOrDefault_attempts answer _).2] at h
    cases h
    exact congrArg seedOf ha.symm

/-- The first seed takes the question of the policy. -/
theorem initialSeed_attempts (policy : SeedPolicy) (s : σ × τ) :
    Attempts (initialSeed policy) s (seedQuery policy) fun _ => [] := by
  cases policy with
  | processDefault | fixed => exact ⟨rfl, rfl⟩
  | time => exact clockSeed_attempts s
  | entropy => exact .bind (askEntropy_attempts s) fun a _ => (seedOrDefault_attempts a _).1

/-- The first seed is the one that the policy names or asks for. -/
theorem initialSeed_value {policy : SeedPolicy} {s : σ × τ} {seed : UInt64}
    (h : (initialSeed policy s).outcome = .value seed) : seed = policySeed policy s.2 := by
  cases policy with
  | processDefault | fixed => cases h; rfl
  | time => exact clockSeed_value h
  | entropy =>
    simp only [initialSeed, Act.bind_apply] at h
    cases ha : (askEntropy s).outcome with
    | panicked => rw [Run.andThen_of_panicked ha] at h; cases h
    | value answer =>
      rw [Run.andThen_of_value ha, (seedOrDefault_attempts answer _).2] at h
      cases h
      exact congrArg seedOf ha.symm

/-- Seeding the source of a new reader attempts the list of the policy. -/
theorem seedSource_attempts (policy : SeedPolicy) (s : σ × τ) :
    Attempts (seedSource policy) s (seedingCalls policy s.2) fun _ => [] := by
  rw [seedingCalls_eq]
  refine .bind (initialSeed_attempts policy s) fun seed hseed => ?_
  rw [← initialSeed_value hseed]
  exact (Attempts.emit _ _).bind fun _ _ => reseedSource_attempts seed _

/-- Taking a reading attempts the list of the policy: by the time policy the clock is asked and the
source started afresh, and then every policy draws. -/
theorem takeReading_attempts (policy : SeedPolicy) (label : Label) (s : σ × τ) :
    Attempts (takeReading policy .recording label) s (readingCalls policy s.2)
      fun value => [value] := by
  refine (Attempts.emit _ _).bind fun _ _ => ?_
  cases policy with
  | processDefault | fixed | entropy => exact drawReading_attempts _
  | time =>
    refine .bind (clockSeed_attempts s) fun seed hseed => ?_
    rw [← clockSeed_value hseed]
    exact .bind (reseedSource_attempts seed _) fun _ _ => drawReading_attempts _

/-! ## Readers, held directly or behind a lock -/

/-- A reading as a list of the one value drawn, with the calls that it took. -/
def readingReport {S : Type} (run : Run S Int32) : Outcome (List Int32) × List Call :=
  (run.outcome.map fun value => [value], run.calls)

/-- Building a reader is seeding its source, which goes into the reader. -/
theorem Reader.build_eq (policy : SeedPolicy) (source : σ) (seeds : τ) :
    Reader.build policy source seeds =
      let run := seedSource policy (source, seeds)
      ⟨run.outcome.map fun _ => ⟨run.state.1, policy⟩, run.state.2, run.trace⟩ := by
  rcases hr : seedSource policy (source, seeds) with ⟨o, s, trace⟩
  cases o <;> simp [Reader.build, hr]

/-- Building a reader attempts the list of its policy. -/
theorem Reader.build_report (policy : SeedPolicy) (source : σ) (seeds : τ) :
    ((Reader.build policy source seeds).outcome.map fun _ => [],
        (Reader.build policy source seeds).calls) =
      (attempt (seedingCalls policy seeds) (source, seeds)).report := by
  rw [← (seedSource_attempts policy (source, seeds)).report, Reader.build_eq]
  exact congrArg (·, _) (Outcome.map_map _ _ _)

/-- Building a reader leaves the sources as the calls do, the one of readings in the reader. -/
theorem Reader.build_state (policy : SeedPolicy) (source : σ) (seeds : τ) :
    let seeded := attempt (seedingCalls policy seeds) (source, seeds)
    (Reader.build policy source seeds).state = seeded.state.2 ∧
      ∀ reader, (Reader.build policy source seeds).outcome = .value reader →
        reader = ⟨seeded.state.1, policy⟩ := by
  simp only [← (seedSource_attempts policy (source, seeds)).state, Reader.build_eq, true_and]
  intro reader h
  cases ho : (seedSource policy (source, seeds)).outcome with
  | panicked => rw [ho] at h; cases h
  | value u => rw [ho] at h; cases h; rfl

/-- A reading attempts the list of the reader's policy and leaves the sources as the calls do, also
where it panics. -/
theorem Reader.read_attempts (label : Label) (reader : Reader σ) (seeds : τ) :
    let tried := attempt (readingCalls reader.policy seeds) (reader.source, seeds)
    readingReport (Reader.read .recording label (reader, seeds)) = tried.report ∧
      (Reader.read .recording label (reader, seeds)).state =
        (⟨tried.state.1, reader.policy⟩, tried.state.2) := by
  obtain ⟨hreport, hstate⟩ := takeReading_attempts reader.policy label (reader.source, seeds)
  exact ⟨hreport, by simp only [Reader.read, Run.state_mapState, hstate]⟩

/-- The same behind a lock, poisoned or not. A poisoned lock is taken all the same, with what the
panic left behind it. -/
theorem SharedReader.read_attempts (label : Label) (shared : SharedReader σ) (seeds : τ) :
    let tried := attempt (readingCalls shared.value.policy seeds) (shared.value.source, seeds)
    readingReport (SharedReader.read .recording label (shared, seeds)) = tried.report ∧
      (SharedReader.read .recording label (shared, seeds)).state.1.value =
        ⟨tried.state.1, shared.value.policy⟩ ∧
      (SharedReader.read .recording label (shared, seeds)).state.2 = tried.state.2 := by
  obtain ⟨hreport, hstate⟩ := Reader.read_attempts label shared.value seeds
  exact ⟨hreport, congrArg Prod.fst hstate, congrArg Prod.snd hstate⟩

/-- What is seen of a reader from its building on: the building, and if that gives a reader, a
reading for each label from the reader as it is held. -/
def lifeHeld {S : Type} (hold : Reader σ → S) (read : Label → Act (S × τ) Int32)
    (built : Run τ (Reader σ)) (labels : List Label) : List (Run τ (Option Int32)) :=
  ⟨built.outcome.map fun _ => none, built.state, built.trace⟩ ::
    match built.outcome with
    | .panicked => []
    | .value reader =>
      (Act.history read labels (hold reader, built.state)).map fun run =>
        ⟨run.outcome.map some, run.state.2, run.trace⟩

/-- What is seen of a reader that is held directly. -/
def Reader.life (built : Run τ (Reader σ)) (labels : List Label) : List (Run τ (Option Int32)) :=
  lifeHeld id (Reader.read .recording) built labels

/-- What is seen of a reader behind a lock. -/
def SharedReader.life (built : Run τ (Reader σ)) (labels : List Label) :
    List (Run τ (Option Int32)) :=
  lifeHeld Lock.around (SharedReader.read .recording) built labels

/-- A lock changes nothing of what is seen. -/
theorem SharedReader.life_eq (built : Run τ (Reader σ)) (labels : List Label) :
    SharedReader.life built labels = Reader.life built labels := by
  cases ho : built.outcome with
  | panicked => simp only [SharedReader.life, Reader.life, lifeHeld, ho]
  | value reader =>
    simp only [SharedReader.life, Reader.life, lifeHeld, ho]
    refine congrArg _ (Act.history_map_eq_history_map
      (R := fun s t => (s.1.value, s.2) = t) ?_ labels rfl)
    rintro label ⟨shared, seeds⟩ _ rfl
    exact ⟨rfl, rfl⟩

/-- One reading of a machine that only makes calls: the complete list of the policy is attempted
from where the sources were left. -/
def attemptReading (policy : SeedPolicy) (_label : Label) (s : σ × τ) :
    (Outcome (List Int32) × List Call) × (σ × τ) :=
  let tried := attempt (readingCalls policy s.2) s
  (tried.report, tried.state)

/-- **A reader attempts complete lists of calls, and nothing else.** Building one attempts the list
of its policy. If that gives a reader, each reading that follows attempts the complete list for a
reading, whatever came of the readings before it, and starts from where the last call left the
sources; this is so for a reader held directly and for one behind a lock. -/
theorem reader_attempts_call_lists (policy : SeedPolicy) (source : σ) (seeds : τ) :
    let built := Reader.build policy source seeds
    let seeded := attempt (seedingCalls policy seeds) (source, seeds)
    (built.outcome.map fun _ => [], built.calls) = seeded.report ∧
      built.state = seeded.state.2 ∧
      ∀ reader, built.outcome = .value reader → ∀ labels : List Label,
        (Act.history (Reader.read .recording) labels (reader, built.state)).map readingReport =
            transcript (attemptReading policy) labels seeded.state ∧
          (Act.history (SharedReader.read .recording) labels
              (Lock.around reader, built.state)).map readingReport =
            transcript (attemptReading policy) labels seeded.state := by
  intro built seeded
  obtain ⟨hstate, hreader⟩ := Reader.build_state policy source seeds
  refine ⟨Reader.build_report policy source seeds, hstate, fun reader hbuilt labels => ⟨?_, ?_⟩⟩
  · refine Act.history_map_eq_transcript
      (R := fun s t => s.1.policy = policy ∧ (s.1.source, s.2) = t) ?_ labels ?_
    · rintro label ⟨reader, seeds⟩ _ ⟨rfl, rfl⟩
      obtain ⟨hreport, hnext⟩ := Reader.read_attempts label reader seeds
      exact ⟨hreport, by rw [hnext]; exact ⟨rfl, rfl⟩⟩
    · rw [hreader reader hbuilt, hstate]
      exact ⟨rfl, rfl⟩
  · refine Act.history_map_eq_transcript
      (R := fun s t => s.1.value.policy = policy ∧ (s.1.value.source, s.2) = t) ?_ labels ?_
    · rintro label ⟨shared, seeds⟩ _ ⟨rfl, rfl⟩
      obtain ⟨hreport, hvalue, hseeds⟩ := SharedReader.read_attempts label shared seeds
      exact ⟨hreport, by rw [hvalue, hseeds]; exact ⟨rfl, rfl⟩⟩
    · rw [hreader reader hbuilt, hstate]
      exact ⟨rfl, rfl⟩

/-- A clock that answers, fails, panics and answers again, over readings of which the second one
panics: the panics cut their own readings short and leave the later ones complete. -/
theorem shared_reader_calls_replayed :
    let source := ReplayedReadings.ofList [.value 7, .panicked]
    let seeds : ReplayedSeeds :=
      ⟨[.value (.ok 3), .value (.error .clockBeforeEpoch), .panicked, .value (.ok 4)], []⟩
    let built := Reader.build .time source seeds
    built.outcome = .value ⟨source, .time⟩ ∧
      (Act.history (SharedReader.read .recording) (List.replicate 4 ⟨1, none⟩)
          (Lock.around ⟨source, .time⟩, built.state)).map readingReport =
        [(.value [7], [.timeSeed, .reseed 1, .draw]), (.panicked, [.timeSeed]),
          (.panicked, [.timeSeed, .reseed 4, .draw]),
          (.value [7], [.timeSeed, .reseed 4, .draw])] :=
  ⟨rfl, ((reader_attempts_call_lists _ _ _).2.2 _ rfl _).2.trans rfl⟩

end DeviceReadings
