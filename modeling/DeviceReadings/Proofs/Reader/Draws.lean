import DeviceReadings.Proofs.Reader.Calls

/-!
# Readings as draws

Under every policy but the time policy a reader only draws from its source once it is built, so
its readings are the `RandomSource.reading`s of that source in order (`Reader.read_once`,
`RandomSource.history_draws`). Where the question for the first seed is answered and no start
afresh panics, the calls that build a reader are all made (`attempt_seedingCalls_of_answered`), and
so are those of a reading under the time policy.
-/

namespace DeviceReadings

variable {σ τ : Type} [RandomSource σ] [SeedSource τ]

/-! ## The readings of a source -/

namespace RandomSource

/-- A source after some draws. -/
def drawn (source : σ) : Nat → σ
  | 0 => source
  | n + 1 => drawn (draw source).2 n

/-- What draw number `n` from a source comes to, counted from 0. -/
def reading (source : σ) (n : Nat) : Outcome Int32 :=
  (draw (drawn source n)).1

/-- A draw more is one behind those before it. -/
theorem drawn_succ (source : σ) (n : Nat) : drawn source (n + 1) = (draw (drawn source n)).2 := by
  induction n generalizing source with
  | zero => rfl
  | succ n ih => exact ih (draw source).2

/-- What a source gives to a row of requests is the row of its readings. -/
theorem transcript_draw {ι : Type} (requests : List ι) (source : σ) :
    transcript (fun _ => draw) requests source =
      (List.range requests.length).map (reading source) := by
  induction requests generalizing source with
  | nil => rfl
  | cons i rest ih =>
    rw [transcript, ih, List.length_cons, List.range_succ_eq_map, List.map_cons, List.map_map]
    rfl

/-- Actions in a row that each draw from the source their state stands for get its readings. The
relation says which source that is, and what else a state holds does not matter. -/
theorem history_draws {ι S : Type} {act : ι → Act S Int32} {R : S → σ → Prop}
    (hstep : ∀ i s source, R s source →
      (act i s).outcome = (draw source).1 ∧ R (act i s).state (draw source).2)
    (requests : List ι) {s : S} {source : σ} (h : R s source) :
    (Act.history act requests s).map Run.outcome =
      (List.range requests.length).map (reading source) := by
  rw [← transcript_draw]
  exact Act.history_map_eq_transcript hstep requests h

end RandomSource

/-- Reading number `n` of a cipher stream, counted from 0. -/
def CipherStream.nth (stream : CipherStream) (n : Nat) : Int32 :=
  (RandomSource.drawn stream n).next.1

/-! ## Sources that answer -/

/-- Every question for a seed is answered, with a seed or with a failure. -/
structure SeedSource.Answers (τ : Type) [SeedSource τ] : Prop where
  time : ∀ seeds : τ, ∃ answer, (SeedSource.time seeds).1 = .value answer
  entropy : ∀ seeds : τ, ∃ answer, (SeedSource.entropy seeds).1 = .value answer

/-- No start afresh panics. -/
def RandomSource.Restarts (σ : Type) [RandomSource σ] : Prop :=
  ∀ (seed : UInt64) (source : σ), (RandomSource.reseed seed source).1 = .value ()

/-- A cipher stream can be started afresh in any state. -/
theorem CipherStream.restarts : RandomSource.Restarts CipherStream :=
  fun _ _ => rfl

/-- A system answers every question for a seed, be it with a failure. -/
theorem SystemSeeds.answers : SeedSource.Answers SystemSeeds :=
  ⟨fun _ => ⟨_, rfl⟩, fun _ => ⟨_, rfl⟩⟩

/-- The seeds that are left after the question that a policy asks for the first one. -/
def seedsAfter (policy : SeedPolicy) (seeds : τ) : τ :=
  match policy with
  | .processDefault | .fixed _ => seeds
  | .time => (SeedSource.time seeds).2
  | .entropy => (SeedSource.entropy seeds).2

/-- The question that a policy asks for the first seed is answered, if it asks one. -/
def SeedSource.AnswersFirst (policy : SeedPolicy) (seeds : τ) : Prop :=
  match policy with
  | .processDefault | .fixed _ => True
  | .time => ∃ answer, (SeedSource.time seeds).1 = .value answer
  | .entropy => ∃ answer, (SeedSource.entropy seeds).1 = .value answer

/-- Where every question is answered, so is the first one. -/
theorem SeedSource.Answers.first (hs : SeedSource.Answers τ) (policy : SeedPolicy) (seeds : τ) :
    SeedSource.AnswersFirst policy seeds := by
  cases policy with
  | processDefault | fixed => trivial
  | time => exact hs.time seeds
  | entropy => exact hs.entropy seeds

/-- The calls that build a reader are all made, and leave the source started afresh. -/
theorem attempt_seedingCalls_of_answered (hr : RandomSource.Restarts σ) {policy : SeedPolicy}
    {seeds : τ} (h : SeedSource.AnswersFirst policy seeds) (source : σ) :
    attempt (seedingCalls policy seeds) (source, seeds) =
      ⟨.value [], seedingCalls policy seeds,
        ((RandomSource.reseed (policySeed policy seeds) source).2, seedsAfter policy seeds)⟩ := by
  cases policy with
  | processDefault | fixed =>
    simp [seedingCalls, policySeed, seedsAfter, attempt, Tried.andThen, Call.answer, hr _ source]
  | time | entropy =>
    obtain ⟨answer, hanswer⟩ := h
    simp [seedingCalls, policySeed, seedsAfter, attempt, Tried.andThen, Call.answer, hanswer,
      hr _ source]

/-- A draw is attempted by drawing. Whether it panics is up to the source. -/
theorem attempt_draw (source : σ) (seeds : τ) :
    attempt [.draw] (source, seeds) =
      ⟨(RandomSource.draw source).1.map fun value => [value], [.draw],
        ((RandomSource.draw source).2, seeds)⟩ := by
  cases hd : (RandomSource.draw source).1 <;> simp [attempt, Call.answer, hd, Tried.andThen]

/-! ## Readings, policy by policy -/

/-- Lists of one value tell the values apart. -/
theorem outcome_eq_of_readingReport {S : Type} {run : Run S Int32} {o : Outcome Int32}
    {calls : List Call} (h : readingReport run = (o.map fun value => [value], calls)) :
    run.report = (o, calls) := by
  obtain ⟨houtcome, hcalls⟩ := Prod.mk.inj h
  refine Prod.ext ?_ hcalls
  show run.outcome = o
  cases hr : run.outcome <;> cases o <;> simp_all

namespace Reader

/-- A reader that is not seeded at every reading only draws. -/
theorem read_once (label : Label) {reader : Reader σ} (seeds : τ) (h : reader.policy ≠ .time) :
    (Reader.read .recording label (reader, seeds)).report =
        ((RandomSource.draw reader.source).1, [.draw]) ∧
      (Reader.read .recording label (reader, seeds)).state =
        (⟨(RandomSource.draw reader.source).2, reader.policy⟩, seeds) := by
  have hcalls : readingCalls reader.policy seeds = [.draw] := by
    cases hp : reader.policy with
    | time => exact absurd hp h
    | processDefault | fixed | entropy => rfl
  obtain ⟨hreport, hstate⟩ := Reader.read_attempts label reader seeds
  rw [hcalls, attempt_draw] at hreport hstate
  exact ⟨outcome_eq_of_readingReport hreport, hstate⟩

/-- Under the time policy a reading is the first one of the source started afresh from the clock's
answer. It is enough that this one question is answered. -/
theorem read_time_of_answered (hr : RandomSource.Restarts σ) (label : Label) {reader : Reader σ}
    {seeds : τ} (hclock : SeedSource.AnswersFirst .time seeds) (h : reader.policy = .time) :
    let fresh := (RandomSource.reseed (seedOf (SeedSource.time seeds).1) reader.source).2
    (Reader.read .recording label (reader, seeds)).report =
        ((RandomSource.draw fresh).1, readingCalls .time seeds) ∧
      (Reader.read .recording label (reader, seeds)).state =
        (⟨(RandomSource.draw fresh).2, .time⟩, (SeedSource.time seeds).2) := by
  intro fresh
  have htried : attempt (readingCalls .time seeds) (reader.source, seeds) =
      ⟨(RandomSource.draw fresh).1.map fun value => [value], readingCalls .time seeds,
        ((RandomSource.draw fresh).2, (SeedSource.time seeds).2)⟩ := by
    have hcalls : readingCalls .time seeds = seedingCalls .time seeds ++ [.draw] := rfl
    rw [hcalls, attempt_append, attempt_seedingCalls_of_answered hr hclock]
    simp only [Tried.andThen, policySeed, seedsAfter, attempt_draw, List.nil_append,
      Outcome.map_id_fun, fresh]
  obtain ⟨hreport, hstate⟩ := Reader.read_attempts label reader seeds
  rw [h, htried] at hreport hstate
  exact ⟨outcome_eq_of_readingReport hreport, hstate⟩

/-- So it is wherever every question is answered. -/
theorem read_time (hs : SeedSource.Answers τ) (hr : RandomSource.Restarts σ) (label : Label)
    {reader : Reader σ} (seeds : τ) (h : reader.policy = .time) :
    let fresh := (RandomSource.reseed (seedOf (SeedSource.time seeds).1) reader.source).2
    (Reader.read .recording label (reader, seeds)).report =
        ((RandomSource.draw fresh).1, readingCalls .time seeds) ∧
      (Reader.read .recording label (reader, seeds)).state =
        (⟨(RandomSource.draw fresh).2, .time⟩, (SeedSource.time seeds).2) :=
  read_time_of_answered hr label (hs.first .time seeds) h

/-- Where the first question is answered a reader is built, around the source started afresh. -/
theorem build_of_answered (hr : RandomSource.Restarts σ) {policy : SeedPolicy} {seeds : τ}
    (h : SeedSource.AnswersFirst policy seeds) (source : σ) :
    let built := Reader.build policy source seeds
    built.outcome = .value ⟨(RandomSource.reseed (policySeed policy seeds) source).2, policy⟩ ∧
      built.state = seedsAfter policy seeds ∧ built.calls = seedingCalls policy seeds := by
  intro built
  have hreport := Reader.build_report policy source seeds
  obtain ⟨hstate, hreader⟩ := Reader.build_state policy source seeds
  rw [attempt_seedingCalls_of_answered hr h] at hreport hstate hreader
  obtain ⟨houtcome, hcalls⟩ := Prod.mk.inj hreport
  refine ⟨?_, hstate, hcalls⟩
  cases ho : built.outcome with
  | panicked => rw [ho] at houtcome; cases houtcome
  | value reader => rw [hreader reader ho]

/-- A reading whose announcement panics leaves everything as it was. -/
theorem read_failing (label : Label) (reader : Reader σ) (seeds : τ) :
    Reader.read .failing label (reader, seeds) = ⟨.panicked, (reader, seeds), []⟩ := rfl

end Reader

end DeviceReadings
