import DeviceReadings.Proofs.Reader.Calls

/-!
# Questions for a seed that fail

A question for a seed that fails is a question that is answered by the default seed, and one warning
more. `Mended` seeds are those of another source with the default seed in place of every failure,
and a run with them is the run with the others without its warnings (`Mends`). The warnings are
counted against the calls: `failures` asks the questions among some calls once more and keeps what
fails. Before a reader is announced, and after a reading is, this is all that is logged (`Warns`).

`failure_is_default_seed_and_warning` puts both together for a whole life of a reader.
-/

namespace DeviceReadings

variable {σ τ α β : Type}

/-! ## Mended seeds -/

/-- An answer with the default seed in place of a failure. -/
def mend : SeedAnswer → SeedAnswer
  | .value (.ok seed) => .value (.ok seed)
  | .value (.error _) => .value (.ok 1)
  | .panicked => .panicked

/-- A source of seeds that gives the default seed where another one fails. -/
structure Mended (τ : Type) where
  seeds : τ

instance [SeedSource τ] : SeedSource (Mended τ) where
  time s := (mend (SeedSource.time s.seeds).1, ⟨(SeedSource.time s.seeds).2⟩)
  entropy s := (mend (SeedSource.entropy s.seeds).1, ⟨(SeedSource.entropy s.seeds).2⟩)

/-- Is an entry of a trace a warning? -/
def Effect.isWarning : Effect → Bool
  | .call _ => false
  | .event e => e.level = .warn

/-- A trace without its warnings. -/
def quiet (trace : List Effect) : List Effect :=
  trace.filter (!·.isWarning)

/-- The calls of a trace stay when its warnings go. -/
theorem calls_quiet (trace : List Effect) :
    (quiet trace).filterMap Effect.call? = trace.filterMap Effect.call? := by
  rw [quiet, List.filterMap_filter]
  refine congrArg (List.filterMap · trace) (funext fun entry => ?_)
  cases entry with
  | call c => rfl
  | event e => exact ite_self none

/-- The events of a trace without its warnings are its other events. -/
theorem log_quiet (trace : List Effect) :
    (quiet trace).filterMap Effect.event? =
      (trace.filterMap Effect.event?).filter (·.level ≠ .warn) := by
  rw [quiet, List.filterMap_filter, List.filter_filterMap]
  refine congrArg (List.filterMap · trace) (funext fun entry => ?_)
  cases entry with
  | call c => rfl
  | event e => simp [Effect.isWarning, Effect.event?, Option.filter]

/-- A run without its warnings, as one with mended seeds. -/
def Run.mended (r : Run (σ × τ) α) : Run (σ × Mended τ) α :=
  ⟨r.outcome, (r.state.1, ⟨r.state.2⟩), quiet r.trace⟩

/-- With mended seeds the second action does what the first one does, but for the warnings. -/
def Mends (x : Act (σ × τ) α) (y : Act (σ × Mended τ) α) : Prop :=
  ∀ source seeds, y (source, ⟨seeds⟩) = (x (source, seeds)).mended

namespace Mends

/-- A value alone is the same with mended seeds. -/
theorem pure (a : α) : Mends (Pure.pure a : Act (σ × τ) α) (Pure.pure a) :=
  fun _ _ => rfl

/-- Actions in a row do the same with mended seeds if each of them does. -/
theorem bind {x : Act (σ × τ) α} {y : Act (σ × Mended τ) α} {k : α → Act (σ × τ) β}
    {l : α → Act (σ × Mended τ) β} (hx : Mends x y) (hk : ∀ a, Mends (k a) (l a)) :
    Mends (x >>= k) (y >>= l) := by
  intro source seeds
  rw [Act.bind_apply, Act.bind_apply, hx source seeds]
  cases ho : (x (source, seeds)).outcome with
  | panicked => simp [Run.andThen, Run.mended, ho]
  | value a =>
    have hnext := hk a (x (source, seeds)).state.1 (x (source, seeds)).state.2
    simp [Run.andThen, Run.mended, ho, hnext, quiet]

/-- An event that is no warning is logged either way. -/
theorem emit {e : Event} (h : e.level ≠ .warn) :
    Mends (Act.emit e : Act (σ × τ) Unit) (Act.emit e) := by
  intro source seeds
  simp [Act.emit, Run.mended, quiet, Effect.isWarning, h]

/-- A question whose answer is mended, made a seed of: a failure ends up as the default seed with a
warning in one run, and without it in the other. -/
theorem question {c : Call} {f : σ × τ → SeedAnswer × (σ × τ)}
    {g : σ × Mended τ → SeedAnswer × (σ × Mended τ)}
    (h : ∀ source seeds, g (source, ⟨seeds⟩) =
      (mend (f (source, seeds)).1, ((f (source, seeds)).2.1, ⟨(f (source, seeds)).2.2⟩))) :
    Mends (Act.perform c f >>= seedOrDefault) (Act.perform c g >>= seedOrDefault) := by
  intro source seeds
  rw [Act.bind_apply, Act.bind_apply, Act.perform, Act.perform, h source seeds]
  rcases f (source, seeds) with ⟨(cause | seed) | _, later⟩ <;> rfl

variable [SeedSource τ]

/-- A seed by the clock is the same with mended seeds. -/
theorem clockSeed :
    Mends (DeviceReadings.clockSeed : Act (σ × τ) UInt64) DeviceReadings.clockSeed :=
  question fun _ _ => rfl

/-- So is the first seed by any policy. -/
theorem initialSeed (policy : SeedPolicy) :
    Mends (DeviceReadings.initialSeed policy : Act (σ × τ) UInt64)
      (DeviceReadings.initialSeed policy) := by
  cases policy with
  | processDefault | fixed => exact pure _
  | time => exact clockSeed
  | entropy => exact question fun _ _ => rfl

variable [RandomSource σ]

omit [SeedSource τ] in

/-- Fresh starts do not depend on the seeds that are left. -/
theorem reseedSource (seed : UInt64) :
    Mends (DeviceReadings.reseedSource seed : Act (σ × τ) Unit)
      (DeviceReadings.reseedSource seed) :=
  fun _ _ => rfl

omit [SeedSource τ] in

/-- Neither do draws. -/
theorem drawReading :
    Mends (DeviceReadings.drawReading : Act (σ × τ) Int32) DeviceReadings.drawReading :=
  fun _ _ => rfl

/-- Seeding a source does the same with mended seeds. -/
theorem seedSource (policy : SeedPolicy) :
    Mends (DeviceReadings.seedSource policy : Act (σ × τ) Unit)
      (DeviceReadings.seedSource policy) :=
  (initialSeed policy).bind fun seed =>
    (emit (by simp [Event.level])).bind fun _ => reseedSource seed

/-- So does taking a reading. -/
theorem takeReading (policy : SeedPolicy) (label : Label) :
    Mends (DeviceReadings.takeReading policy .recording label : Act (σ × τ) Int32)
      (DeviceReadings.takeReading policy .recording label) := by
  refine (emit (by simp [Event.level])).bind fun _ => ?_
  cases policy with
  | processDefault | fixed | entropy => exact drawReading
  | time => exact clockSeed.bind fun seed => (reseedSource seed).bind fun _ => drawReading

end Mends

section

variable [RandomSource σ] [SeedSource τ]

/-- With mended seeds the same reader is built, or none, and the warnings are gone. -/
theorem Reader.build_mended (policy : SeedPolicy) (source : σ) (seeds : τ) :
    let built := Reader.build policy source seeds
    Reader.build policy source (Mended.mk seeds) =
      ⟨built.outcome, ⟨built.state⟩, quiet built.trace⟩ := by
  simp only [Reader.build_eq, Mends.seedSource policy source seeds]
  rfl

/-- With mended seeds a reader gives the same reading. -/
theorem Reader.read_mended (label : Label) (reader : Reader σ) (seeds : τ) :
    Reader.read .recording label (reader, Mended.mk seeds) =
      (Reader.read .recording label (reader, seeds)).mended := by
  simp only [Reader.read, Mends.takeReading reader.policy label reader.source seeds]
  rfl

/-- What is seen of a life with mended seeds is what is seen without, but for the warnings. -/
theorem Reader.life_mended (policy : SeedPolicy) (source : σ) (seeds : τ) (labels : List Label) :
    (Reader.life (Reader.build policy source (Mended.mk seeds)) labels).map
        (fun run => (run.outcome, run.trace)) =
      (Reader.life (Reader.build policy source seeds) labels).map
        fun run => (run.outcome, quiet run.trace) := by
  rw [Reader.build_mended]
  simp only [Reader.life, lifeHeld, List.map_cons]
  congr 1
  cases (Reader.build policy source seeds).outcome with
  | panicked => rfl
  | value reader =>
    simp only [List.map_map]
    refine Act.history_map_eq_history_map (R := fun s t => s = (t.1, Mended.mk t.2)) ?_ labels rfl
    rintro label _ ⟨reader, seeds⟩ rfl
    rw [Reader.read_mended]
    exact ⟨rfl, rfl⟩

end

/-! ## Warnings, one for each failure -/

/-- The failure that an answer is, if it is one. -/
def failureOf? : SeedAnswer → Option Failure
  | .value (.error cause) => some cause
  | .value (.ok _) => none
  | .panicked => none

/-- A question with a seed made of its answer: it ends as the answer does, and a failure is
logged. -/
theorem question_run (c : Call) (f : σ × τ → SeedAnswer × (σ × τ)) (s : σ × τ) :
    let run := (Act.perform c f >>= seedOrDefault) s
    run.outcome = ((f s).1.map fun answer => seedOf (.value answer)) ∧
      run.log = (failureOf? (f s).1).toList.map .fallback ∧
      run.calls = [c] ∧ run.state = (f s).2 := by
  intro run
  have hrun : run = Run.andThen ⟨(f s).1, (f s).2, [.call c]⟩ seedOrDefault := rfl
  rw [hrun]
  rcases f s with ⟨(cause | seed) | _, later⟩ <;> exact ⟨rfl, rfl, rfl, rfl⟩

section

variable [SeedSource τ]

/-- The failure that a call meets with, if it is a question for a seed that fails. -/
def Call.failure? : Call → τ → Option Failure
  | .timeSeed, seeds => failureOf? (SeedSource.time seeds).1
  | .entropySeed, seeds => failureOf? (SeedSource.entropy seeds).1
  | .reseed _, _ => none
  | .draw, _ => none

/-- The seeds that a call leaves. -/
def Call.seedsLeft : Call → τ → τ
  | .timeSeed, seeds => (SeedSource.time seeds).2
  | .entropySeed, seeds => (SeedSource.entropy seeds).2
  | .reseed _, seeds => seeds
  | .draw, seeds => seeds

/-- The failures that some calls meet with, in order. -/
def failures : List Call → τ → List Failure
  | [], _ => []
  | c :: rest, seeds => (c.failure? seeds).toList ++ failures rest (c.seedsLeft seeds)

/-- The seeds that some calls leave. -/
def seedsLeft (calls : List Call) (seeds : τ) : τ :=
  calls.foldl (fun seeds c => c.seedsLeft seeds) seeds

/-- The seeds are used up by the calls in their order. -/
theorem seedsLeft_append (first later : List Call) (seeds : τ) :
    seedsLeft (first ++ later) seeds = seedsLeft later (seedsLeft first seeds) :=
  List.foldl_append

/-- The calls of a later list meet with their failures where those before them have left the
seeds. -/
theorem failures_append (first later : List Call) (seeds : τ) :
    failures (first ++ later) seeds =
      failures first seeds ++ failures later (seedsLeft first seeds) := by
  induction first generalizing seeds with
  | nil => rfl
  | cons c rest ih => simp [failures, seedsLeft, ih]

/-- From a state an action logs the failures of its questions and nothing else. -/
structure Warns (x : Act (σ × τ) α) (s : σ × τ) : Prop where
  log : (x s).log = (failures (x s).calls s.2).map .fallback
  seeds : (x s).state.2 = seedsLeft (x s).calls s.2

namespace Warns

/-- Actions in a row log the failures of their questions if each of them does, the later one from
where the first one leaves the seeds. -/
theorem bind {x : Act (σ × τ) α} {k : α → Act (σ × τ) β} {s : σ × τ} (hx : Warns x s)
    (hk : ∀ a, Warns (k a) (x s).state) : Warns (x >>= k) s := by
  obtain ⟨hlog, hseeds⟩ := hx
  rw [Run.log] at hlog
  cases ho : (x s).outcome with
  | panicked =>
    constructor
    · rw [Act.bind_apply, Run.andThen_of_panicked ho]
      exact hlog
    · rw [Act.bind_apply, Run.andThen_of_panicked ho]
      exact hseeds
  | value a =>
    obtain ⟨hlog', hseeds'⟩ := hk a
    constructor
    · rw [Act.bind_apply, Run.andThen_of_value ho, Run.log_mk_append, Run.calls_mk_append, hlog,
        hlog', failures_append, List.map_append, hseeds]
      rfl
    · rw [Act.bind_apply, Run.andThen_of_value ho, Run.calls_mk_append, seedsLeft_append]
      rw [hseeds] at hseeds'
      exact hseeds'

/-- A value alone asks nothing and logs nothing. -/
theorem pure (a : α) (s : σ × τ) : Warns (Pure.pure a) s :=
  ⟨rfl, rfl⟩

/-- A question is warned of when a seed is made of its answer. -/
theorem question {c : Call} {f : σ × τ → SeedAnswer × (σ × τ)} {s : σ × τ}
    (hfailure : failureOf? (f s).1 = c.failure? s.2) (hseeds : (f s).2.2 = c.seedsLeft s.2) :
    Warns (Act.perform c f >>= seedOrDefault) s := by
  obtain ⟨-, hlog, hcalls, hstate⟩ := question_run c f s
  constructor
  · rw [hlog, hcalls, hfailure, failures, failures, List.append_nil]
  · rw [hstate, hcalls, hseeds]
    rfl

/-- A seed by the clock is warned of if it is the default one for a failure. -/
theorem clockSeed (s : σ × τ) : Warns DeviceReadings.clockSeed s :=
  question rfl rfl

/-- So is the first seed by any policy. -/
theorem initialSeed (policy : SeedPolicy) (s : σ × τ) :
    Warns (DeviceReadings.initialSeed policy) s := by
  cases policy with
  | processDefault | fixed => exact pure _ s
  | time => exact clockSeed s
  | entropy => exact question rfl rfl

variable [RandomSource σ]

/-- A fresh start asks nothing and logs nothing. -/
theorem reseedSource (seed : UInt64) (s : σ × τ) : Warns (DeviceReadings.reseedSource seed) s :=
  ⟨rfl, rfl⟩

/-- A draw asks nothing and logs nothing. -/
theorem drawReading (s : σ × τ) : Warns DeviceReadings.drawReading s :=
  ⟨rfl, rfl⟩

end Warns

/-! ## Building and reading -/

/-- The seed that a reader starts with by a policy, unless the question for it panics. -/
def startingSeed (policy : SeedPolicy) (seeds : τ) : Outcome UInt64 :=
  match policy with
  | .processDefault => .value 1
  | .fixed seed => .value seed
  | .time => (SeedSource.time seeds).1.map fun answer => seedOf (.value answer)
  | .entropy => (SeedSource.entropy seeds).1.map fun answer => seedOf (.value answer)

/-- The first seed is the one that the policy names or asks for, with its question asked. -/
theorem initialSeed_run (policy : SeedPolicy) (s : σ × τ) :
    (initialSeed policy s).outcome = startingSeed policy s.2 ∧
      (initialSeed policy s).calls = seedQuery policy := by
  cases policy with
  | processDefault | fixed => exact ⟨rfl, rfl⟩
  | time | entropy =>
    obtain ⟨houtcome, -, hcalls, -⟩ := question_run _ _ s
    exact ⟨houtcome, hcalls⟩

variable [RandomSource σ]

/-- Seeding a source warns of a failed question, announces the reader with its seed and starts the
source afresh from that seed. Where the question panics it ends with the question. -/
theorem seedSource_log (policy : SeedPolicy) (s : σ × τ) :
    let run := seedSource policy s
    run.log = (failures run.calls s.2).map .fallback ++
        (startingSeed policy s.2).toList.map (.seeding policy) ∧
      run.calls = seedQuery policy ++ (startingSeed policy s.2).toList.map .reseed ∧
      run.state.2 = seedsLeft run.calls s.2 := by
  obtain ⟨houtcome, hcalls⟩ := initialSeed_run policy s
  obtain ⟨hlog, hseeds⟩ := Warns.initialSeed policy s
  intro run
  have hrun : run = (initialSeed policy s).andThen fun seed =>
      Act.emit (.seeding policy seed) >>= fun _ => reseedSource seed := rfl
  cases ho : startingSeed policy s.2 with
  | panicked =>
    rw [hrun, Run.andThen_of_panicked (houtcome.trans ho)]
    refine ⟨hlog.trans (List.append_nil _).symm, hcalls.trans (List.append_nil _).symm, hseeds⟩
  | value seed =>
    have hfailures : failures ((initialSeed policy s).calls ++ [.reseed seed]) s.2 =
        failures (initialSeed policy s).calls s.2 := by
      rw [failures_append]
      exact List.append_nil _
    have hleft : seedsLeft ((initialSeed policy s).calls ++ [.reseed seed]) s.2 =
        seedsLeft (initialSeed policy s).calls s.2 := seedsLeft_append _ _ _
    rw [hrun, Run.andThen_of_value (houtcome.trans ho), Run.log_mk_append, Run.calls_mk_append]
    refine ⟨?_, congrArg (· ++ [Call.reseed seed]) hcalls, ?_⟩
    · exact congrArg (· ++ [Event.seeding policy seed]) (hlog.trans (congrArg _ hfailures.symm))
    · exact hseeds.trans hleft.symm

/-- A reading announces itself and then warns of a failed question. The warning comes second since
the question is asked within the reading. -/
theorem takeReading_log (policy : SeedPolicy) (label : Label) (s : σ × τ) :
    let run := takeReading policy .recording label s
    run.log = .read label.device label.model :: (failures run.calls s.2).map .fallback ∧
      run.state.2 = seedsLeft run.calls s.2 := by
  have hwarns : Warns (do
      if policy.reseedsPerRead then
        reseedSource (← clockSeed)
      drawReading) s := by
    cases policy with
    | processDefault | fixed | entropy => exact .drawReading s
    | time =>
      exact (Warns.clockSeed s).bind fun seed =>
        (Warns.reseedSource seed _).bind fun _ => .drawReading _
  exact ⟨congrArg (Event.read label.device label.model :: ·) hwarns.log, hwarns.seeds⟩

/-- The log of building a reader: the warning of a failed question, and then the reader with its
seed. -/
theorem Reader.build_log (policy : SeedPolicy) (source : σ) (seeds : τ) :
    let built := Reader.build policy source seeds
    built.log = (failures built.calls seeds).map .fallback ++
        (startingSeed policy seeds).toList.map (.seeding policy) ∧
      built.calls = seedQuery policy ++ (startingSeed policy seeds).toList.map .reseed ∧
      built.state = seedsLeft built.calls seeds := by
  rw [Reader.build_eq]
  exact seedSource_log policy (source, seeds)

/-- The log of a reading: the reading, and then the warning of a failed question. -/
theorem Reader.read_log (label : Label) (reader : Reader σ) (seeds : τ) :
    let run := Reader.read .recording label (reader, seeds)
    run.log = .read label.device label.model :: (failures run.calls seeds).map .fallback ∧
      run.state.2 = seedsLeft run.calls seeds :=
  takeReading_log reader.policy label (reader.source, seeds)

/-- Failures are logged as warnings. -/
theorem warnings_map_fallback (causes : List Failure) :
    (causes.map Event.fallback).filter (·.level = .warn) = causes.map .fallback := by
  refine List.filter_eq_self.2 fun e he => ?_
  obtain ⟨cause, -, rfl⟩ := List.mem_map.1 he
  rfl

/-- The warnings of building a reader are the failures that its calls meet with. -/
theorem Reader.build_warnings (policy : SeedPolicy) (source : σ) (seeds : τ) :
    let built := Reader.build policy source seeds
    built.log.filter (·.level = .warn) = (failures built.calls seeds).map .fallback := by
  intro built
  obtain ⟨hlog, -, -⟩ := Reader.build_log policy source seeds
  have hannounced : ((startingSeed policy seeds).toList.map (Event.seeding policy)).filter
      (·.level = .warn) = [] := by
    cases startingSeed policy seeds <;> rfl
  rw [hlog, List.filter_append, hannounced, List.append_nil, warnings_map_fallback]

/-- The warnings of a reading are the failures that its calls meet with. Its announcement is no
warning. -/
theorem Reader.read_warnings (label : Label) (reader : Reader σ) (seeds : τ) :
    let run := Reader.read .recording label (reader, seeds)
    run.log.filter (·.level = .warn) = (failures run.calls seeds).map .fallback := by
  intro run
  obtain ⟨hlog, -⟩ := Reader.read_log label reader seeds
  rw [hlog, List.filter_cons_of_neg (by simp [Event.level]), warnings_map_fallback]

/-- So are the warnings of readings in a row, by induction on the readings. -/
theorem Reader.history_warnings (labels : List Label) (s : Reader σ × τ) :
    let runs := Act.history (Reader.read .recording) labels s
    (runs.flatMap Run.log).filter (·.level = .warn) =
      (failures (runs.flatMap Run.calls) s.2).map .fallback := by
  induction labels generalizing s with
  | nil => rfl
  | cons label rest ih =>
    obtain ⟨-, hleft⟩ := Reader.read_log label s.1 s.2
    simp only [Act.history_cons, List.flatMap_cons, List.filter_append, failures_append,
      List.map_append, ← hleft]
    exact congr (congrArg _ (Reader.read_warnings label s.1 s.2)) (ih _)

/-- The warnings of a whole life are the failures that its calls meet with. -/
theorem Reader.life_warnings (policy : SeedPolicy) (source : σ) (seeds : τ)
    (labels : List Label) :
    let life := Reader.life (Reader.build policy source seeds) labels
    (life.flatMap Run.log).filter (·.level = .warn) =
      (failures (life.flatMap Run.calls) seeds).map .fallback := by
  intro life
  obtain ⟨-, -, hleft⟩ := Reader.build_log policy source seeds
  have hbuilt := Reader.build_warnings policy source seeds
  cases ho : (Reader.build policy source seeds).outcome with
  | panicked =>
    simp only [life, Reader.life, lifeHeld, ho, List.flatMap_cons, List.flatMap_nil,
      List.append_nil]
    exact hbuilt
  | value reader =>
    have hreadings :=
      Reader.history_warnings labels (reader, (Reader.build policy source seeds).state)
    simp only [life, Reader.life, lifeHeld, ho, List.flatMap_cons, List.flatMap_map,
      List.filter_append, failures_append, List.map_append]
    refine congr (congrArg _ hbuilt) (hreadings.trans ?_)
    exact congrArg (fun t => (failures _ t).map Event.fallback) hleft

/-! ## Both together -/

/-- **A failed question is one that the default seed answers, and one warning more.** Take a life of
a reader with any seeds, and one with the default seed in place of every failure. Both come to the
same values and panics and make the same calls, and their logs are the same but for the warnings,
of which the second has none and the first one for each failed question, in order and with the text
of the failure. In the log of the building a warning stands right before the announcement of the
reader, which gives the seed that the source is started from and is missing if the question
panics; in the log of a reading it stands right after that of the reading. -/
theorem failure_is_default_seed_and_warning (policy : SeedPolicy) (source : σ) (seeds : τ)
    (labels : List Label) :
    let built := Reader.build policy source seeds
    let given := Reader.life built labels
    let mended := Reader.life (Reader.build policy source (Mended.mk seeds)) labels
    mended.map Run.outcome = given.map Run.outcome ∧
      mended.map Run.calls = given.map Run.calls ∧
      mended.map Run.log = given.map (fun run => run.log.filter (·.level ≠ .warn)) ∧
      ((given.flatMap Run.log).filter (·.level = .warn)).map (fun e => (e.message, e.fields)) =
        (failures (given.flatMap Run.calls) seeds).map (fun cause =>
          ("Falling back to default seed", [("error", .plain cause.message)])) ∧
      built.log = (failures built.calls seeds).map .fallback ++
        (startingSeed policy seeds).toList.map (.seeding policy) ∧
      built.calls = seedQuery policy ++ (startingSeed policy seeds).toList.map .reseed ∧
      ∀ (label : Label) (reader : Reader σ) (seeds : τ),
        let run := Reader.read .recording label (reader, seeds)
        run.log = .read label.device label.model :: (failures run.calls seeds).map .fallback := by
  intro built given mended
  have hlife := Reader.life_mended policy source seeds labels
  obtain ⟨hlog, hcalls, -⟩ := Reader.build_log policy source seeds
  refine ⟨?_, ?_, ?_, ?_, hlog, hcalls, fun label reader seeds =>
    (Reader.read_log label reader seeds).1⟩
  · have houtcomes := congrArg (List.map Prod.fst) hlife
    simp only [List.map_map, Function.comp_def] at houtcomes
    exact houtcomes
  · have hcalls := congrArg (List.map fun seen => seen.2.filterMap Effect.call?) hlife
    simp only [List.map_map, Function.comp_def, calls_quiet] at hcalls
    exact hcalls
  · have hlogs := congrArg (List.map fun seen => seen.2.filterMap Effect.event?) hlife
    simp only [List.map_map, Function.comp_def, log_quiet] at hlogs
    exact hlogs
  · rw [Reader.life_warnings, List.map_map]
    rfl

end

end DeviceReadings
