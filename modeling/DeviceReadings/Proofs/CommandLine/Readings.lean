import DeviceReadings.Proofs.CommandLine.Stages
import DeviceReadings.Proofs.Config.Document
import DeviceReadings.Proofs.Reader.Readings

/-!
# What the command prints

A run of the command that is asked for readings prints as many as it is asked for, and they are
those of the configuration that its file gives, or else of the default one
(`run_prints_readings`). A reader can always be set up: a file that gives a configuration without
the seed of its policy counts as one that gives none. The one thing that keeps a run from printing
is a setting of the log filter that is torn. Nothing is done then.
-/

namespace DeviceReadings

/-! ## The configuration of a run -/

/-- A file gives a configuration: it holds a text that means it, and it lacks no seed. -/
def FileState.Gives (file : FileState) (c : Config) : Prop :=
  ∃ t, file.text = .ok t ∧ Config.Denotes t c ∧ ¬ c.LacksSeed

/-- The configuration that a run goes by: the one that its file gives, or else the default one. -/
def FileState.RunsBy (file : FileState) (c : Config) : Prop :=
  file.Gives c ∨ (∀ c', ¬ file.Gives c') ∧ c = Config.default

namespace Config

/-- A text is accepted as a configuration just if it means one that lacks no seed. -/
theorem ofJson_eq_ok_iff {t : List Char} {c : Config} :
    ofJson t = .ok c ↔ Denotes t c ∧ ¬ c.LacksSeed := by
  rw [← decode_eq_ok_iff]
  unfold ofJson
  cases decode (Utf8.encode t) with
  | error fault => exact ⟨nofun, fun h => nomatch h.1⟩
  | ok c' =>
    rcases validate_eq c' with ⟨hlacks, hvalidate⟩ | ⟨hlacks, hvalidate⟩
    · simp only [hvalidate]
      refine ⟨nofun, fun ⟨h, hnot⟩ => ?_⟩
      obtain rfl := Except.ok.inj h
      exact absurd hlacks hnot
    · simp only [hvalidate]
      refine ⟨fun h => ?_, fun ⟨h, _⟩ => ?_⟩
      · obtain rfl := Except.ok.inj h
        exact ⟨rfl, hlacks⟩
      · exact congrArg Except.ok (Except.ok.inj h)

/-- What is loaded from a file is the configuration that it gives, and a file that gives none is not
loaded. -/
theorem load_eq_ok_iff {path : String} {file : FileState} {c : Config} :
    load path file = .ok c ↔ file.Gives c := by
  unfold load FileState.Gives
  cases file.text with
  | error reason => exact ⟨nofun, fun ⟨_, h, _⟩ => nomatch h⟩
  | ok t =>
    refine ofJson_eq_ok_iff.trans ⟨fun h => ⟨t, rfl, h⟩, fun ⟨t', ht, h⟩ => ?_⟩
    obtain rfl := Except.ok.inj ht
    exact h

/-- A configuration that lacks no seed has a seed policy. Only a fixed seed that is left out makes a
configuration without one. -/
theorem exists_policy {c : Config} (h : ¬ c.LacksSeed) : ∃ policy, c.policy = .ok policy := by
  rcases validate_eq c with ⟨hlacks, -⟩ | ⟨-, hvalidate⟩
  · exact absurd hlacks h
  · unfold validate at hvalidate
    cases hpolicy : c.policy with
    | error cause =>
      rw [hpolicy] at hvalidate
      cases hvalidate
    | ok policy => exact ⟨policy, rfl⟩

end Config

/-- Whatever a run goes by has a seed policy. The default configuration has one, and a file gives
none without. -/
theorem FileState.RunsBy.exists_policy {file : FileState} {c : Config} (h : file.RunsBy c) :
    ∃ policy, c.policy = .ok policy := by
  rcases h with ⟨_, -, -, hseed⟩ | ⟨-, rfl⟩
  · exact Config.exists_policy hseed
  · exact ⟨.processDefault, rfl⟩

/-- A run goes by the configuration that its file gives, if it gives one. No file gives two, since a
text means at most one (`Config.denotes_unique`). -/
theorem FileState.RunsBy.eq_of_gives {file : FileState} {c c' : Config} (h : file.RunsBy c)
    (hgives : file.Gives c') : c = c' := by
  rcases h with ⟨t, ht, hdenotes, -⟩ | ⟨hnone, -⟩
  · obtain ⟨t', ht', hdenotes', -⟩ := hgives
    rw [ht] at ht'
    obtain rfl := Except.ok.inj ht'
    exact Config.denotes_unique hdenotes hdenotes'
  · exact absurd hgives (hnone c')

/-! ## Answers and generators -/

section

variable {τ : Type} [SeedSource τ]

/-- A source that answers every question answers those of any reader, whatever its policy asks. -/
theorem SeedSource.Answers.answered (hs : SeedSource.Answers τ) (policy : SeedPolicy) (seeds : τ)
    (n : Nat) : Answered policy seeds n := by
  cases policy with
  | processDefault | fixed => trivial
  | entropy => exact hs.entropy seeds
  | time => exact fun k _ => hs.time _

end

/-- The next readings of a generator, one by one: the reading at a place is the next one after those
before it have been skipped. -/
theorem Generator.take_eq_map (n : Nat) (g : Generator) :
    g.take n = (List.range n).map fun k => (g.skip k).next.1 := by
  induction n generalizing g with
  | zero => rfl
  | succ n ih =>
    rw [Generator.take, ih, List.range_succ_eq_map, List.map_cons, List.map_map]
    rfl

namespace CommandLine

/-! ## Sessions -/

/-- The configuration that is chosen is the one that the file gives, or the default one if it gives
none. -/
theorem chooseConfig_runsBy (path : List UInt8) (file : FileState) :
    file.RunsBy (chooseConfig path file).1 := by
  unfold chooseConfig
  cases hload : Config.load (String.ofList (Utf8.decodeLossy path)) file with
  | ok c => exact .inl (Config.load_eq_ok_iff.1 hload)
  | error cause =>
    refine .inr ⟨fun c hgives => ?_, rfl⟩
    rw [Config.load_eq_ok_iff.2 hgives] at hload
    cases hload

variable {τ : Type} [SeedSource τ]

/-- Where the first question for a seed is answered, a session starts with a new reader. The source
has been asked that question and no other. -/
theorem startSession_of_answered {options : Options} {file : FileState} {policy : SeedPolicy}
    {seeds : τ} (hpolicy : (chooseConfig options.config file).1.policy = .ok policy)
    (hfirst : SeedSource.AnswersFirst policy seeds) :
    ∃ run, startSession options file seeds = .ok run ∧ run.state = seedsAfter policy seeds ∧
      run.outcome = .value ⟨⟨(RandomSource.reseed (policySeed policy seeds)
        (Generator.ofSeed (chooseConfig options.config file).1.backend defaultSeed)).2, policy⟩,
        ⟨options.device, options.model.map String.ofList⟩⟩ := by
  obtain ⟨houtcome, hstate, -⟩ := Reader.build_of_answered Generator.seenAs.restarts hfirst
    (Generator.ofSeed (chooseConfig options.config file).1.backend defaultSeed)
  unfold startSession Reader.ofConfig
  dsimp only
  rw [hpolicy]
  refine ⟨_, rfl, ?_, ?_⟩
  · exact (congrArg Run.state (Run.andThen_of_value houtcome _)).trans hstate
  · exact congrArg Run.outcome (Run.andThen_of_value houtcome _)

/-- The readings of a session are those of its reader. If none of them panics they are all printed,
and the session ends well. The induction is on the readings, and the log has no part in it. -/
theorem printAll_of_history (filter : List Directive) (session : Session) (seeds : τ)
    (values : List Int32)
    (h : (Act.history (Reader.read .recording) (List.replicate values.length session.label)
      (session.reader, seeds)).map Run.outcome = values.map .value) :
    (Session.printAll filter values.length (session, seeds)).code = 0 ∧
      (Session.printAll filter values.length (session, seeds)).printed =
        values.map fun v => decimal v.toInt := by
  induction values generalizing session seeds with
  | nil => exact ⟨rfl, rfl⟩
  | cons v values ih =>
    rw [List.length_cons, List.replicate_succ, Act.history_cons, List.map_cons, List.map_cons] at h
    obtain ⟨hfirst, hrest⟩ := List.cons.inj h
    have hnext : (Session.next (session, seeds)).outcome = .value v := hfirst
    obtain ⟨hcode, hprinted⟩ := ih ⟨(Reader.read .recording session.label
      (session.reader, seeds)).state.1, session.label⟩ _ hrest
    rw [List.length_cons, printAll_succ filter _ hnext]
    exact ⟨hcode, congrArg (decimal v.toInt :: ·) hprinted⟩

/-! ## Runs -/

/-- Where every question for a seed is answered a run prints all its readings, which are those of
its configuration. -/
theorem runReadings_of_answers (hs : SeedSource.Answers τ) {options : Options} {file : FileState}
    {policy : SeedPolicy} (hpolicy : (chooseConfig options.config file).1.policy = .ok policy)
    (filter : List Directive) (seeds : τ) :
    (runReadings options filter file seeds).code = 0 ∧
      (runReadings options filter file seeds).printed = (List.range options.count).map fun k =>
        decimal (readingBy (chooseConfig options.config file).1.backend policy seeds k).toInt := by
  obtain ⟨run, hstart, hstate, houtcome⟩ := startSession_of_answered hpolicy (hs.first policy seeds)
  have hhistory := Reader.history_new Generator.seenAs
    (Generator.ofSeed (chooseConfig options.config file).1.backend defaultSeed)
    (List.replicate options.count ⟨options.device, options.model.map String.ofList⟩)
    (hs.answered policy seeds _)
  rw [Generator.backend_ofSeed, List.length_replicate] at hhistory
  let values := (List.range options.count).map
    (readingBy (chooseConfig options.config file).1.backend policy seeds)
  have hlength : values.length = options.count := by
    rw [List.length_map, List.length_range]
  obtain ⟨hcode, hprinted⟩ := printAll_of_history filter ⟨⟨(RandomSource.reseed
    (policySeed policy seeds) (Generator.ofSeed (chooseConfig options.config file).1.backend
      defaultSeed)).2, policy⟩, ⟨options.device, options.model.map String.ofList⟩⟩
    (seedsAfter policy seeds) values (by rw [hlength, List.map_map]; exact hhistory)
  rw [hlength] at hcode hprinted
  rw [runReadings_of_session hstart houtcome, hstate]
  exact ⟨hcode, hprinted.trans (List.map_map ..)⟩

/-- **A run prints the readings of its configuration,** which is the one that its file gives, or
else the default one, and ends well. Its reader can always be set up. By a fixed seed or by the
default one the readings are the first values of the backend's generator, and a run that prints
fewer prints the first of them. A torn setting of the log filter keeps all of this from
happening. -/
theorem run_prints_readings (hs : SeedSource.Answers τ) (env : Environment τ) (options : Options)
    (hargs : read env.arguments = .ok (.readings options)) :
    (Filter.ofVariable env.filter = .panicked → run env = .ofPanic) ∧
      (Filter.ofVariable env.filter ≠ .panicked →
        (∀ cause, startSession options (env.files options.config) env.seeds ≠ .error cause) ∧
        ∃ c policy, (env.files options.config).RunsBy c ∧ c.policy = .ok policy ∧
          (run env).code = 0 ∧
          (run env).printed = (List.range options.count).map (fun k =>
            decimal (readingBy c.backend policy env.seeds k).toInt) ∧
          (policy = .processDefault → (run env).printed =
            (Generator.take options.count (.ofSeed c.backend 1)).map fun v => decimal v.toInt) ∧
          (∀ seed, policy = .fixed seed → (run env).printed =
            (Generator.take options.count (.ofSeed c.backend seed)).map fun v => decimal v.toInt) ∧
          ∀ arguments' options', read arguments' = .ok (.readings options') →
            options'.config = options.config → options'.count ≤ options.count →
              (run { env with arguments := arguments' }).printed <+: (run env).printed) := by
  refine ⟨run_of_torn, fun hnot => ?_⟩
  obtain ⟨filter, hfilter⟩ : ∃ filter, Filter.ofVariable env.filter = .value filter := by
    cases hset : Filter.ofVariable env.filter with
    | value filter => exact ⟨filter, rfl⟩
    | panicked => exact absurd hset hnot
  have hruns := chooseConfig_runsBy options.config (env.files options.config)
  obtain ⟨policy, hpolicy⟩ := hruns.exists_policy
  have hrun : run env = runReadings options filter (env.files options.config) env.seeds :=
    run_of_readings hfilter hargs
  obtain ⟨hcode, hprinted⟩ := runReadings_of_answers hs hpolicy filter env.seeds
  rw [← hrun] at hcode hprinted
  refine ⟨fun cause hfail => ?_, _, policy, hruns, hpolicy, hcode, hprinted, ?_, ?_, ?_⟩
  · obtain ⟨started, hstart, -⟩ := startSession_of_answered hpolicy (hs.first policy env.seeds)
    rw [hstart] at hfail
    cases hfail
  · rintro rfl
    rw [hprinted, Generator.take_eq_map, List.map_map]
    rfl
  · rintro seed rfl
    rw [hprinted, Generator.take_eq_map, List.map_map]
    rfl
  · intro arguments' options' hargs' hconfig hcount
    have hrun' : run { env with arguments := arguments' } =
        runReadings options' filter (env.files options'.config) env.seeds :=
      run_of_readings hfilter hargs'
    -- The count plays no part in how the reader is set up.
    rw [← hconfig] at hpolicy hprinted
    obtain ⟨-, hprinted'⟩ := runReadings_of_answers hs hpolicy filter env.seeds
    rw [hrun', hprinted', hprinted, ← Nat.min_eq_left hcount, ← List.take_range, List.map_take]
    exact List.take_prefix _ _

/-- Two readings by a file with a fixed seed for the fast backend, given as a list. -/
theorem two_fixed_readings_printed :
    let env : Environment SystemSeeds :=
      ⟨[Utf8.encode "--count".toList, Utf8.encode "2".toList], none,
        fun _ => .contents (Utf8.encode "[\"fixed\",42,\"fast\"]".toList), ⟨0, .ok 0⟩⟩
    SeedSource.Answers SystemSeeds ∧
      read env.arguments =
        .ok (.readings ⟨Utf8.encode "reader.json".toList, 1, none, 2⟩) ∧
      Filter.ofVariable env.filter ≠ .panicked ∧ (run env).code = 0 ∧
      (run env).printed =
        (Generator.take 2 (.ofSeed .fast 42)).map fun v => decimal v.toInt := by
  intro env
  have hargs : read env.arguments =
      .ok (.readings ⟨Utf8.encode "reader.json".toList, 1, none, 2⟩) := rfl
  have hfilter : Filter.ofVariable env.filter ≠ .panicked := fun h => by cases h
  have hload : Config.load "" (env.files (Utf8.encode "reader.json".toList)) =
      .ok ⟨.fixed, some 42, .fast⟩ := by decide +kernel
  obtain ⟨-, c, policy, hruns, hpolicy, hcode, -, -, hfixed, -⟩ :=
    (run_prints_readings SystemSeeds.answers env _ hargs).2 hfilter
  obtain rfl := hruns.eq_of_gives (Config.load_eq_ok_iff.1 hload)
  obtain rfl : SeedPolicy.fixed 42 = policy := Except.ok.inj hpolicy
  exact ⟨SystemSeeds.answers, hargs, hfilter, hcode, hfixed 42 rfl⟩

/-- With a no-break space before the directive `a=info` of the log filter, which is then cut inside
this character, the same run prints nothing and does not end well. -/
theorem torn_filter_prints_nothing :
    let env : Environment SystemSeeds :=
      ⟨[Utf8.encode "--count".toList, Utf8.encode "2".toList],
        some [0xC2, 0xA0, 0x61, 0x3D, 0x69, 0x6E, 0x66, 0x6F],
        fun _ => .contents (Utf8.encode "[\"fixed\",42,\"fast\"]".toList), ⟨0, .ok 0⟩⟩
    read env.arguments = .ok (.readings ⟨Utf8.encode "reader.json".toList, 1, none, 2⟩) ∧
      (run env).code = 101 ∧ (run env).printed = [] := by
  intro env
  have hargs : read env.arguments =
      .ok (.readings ⟨Utf8.encode "reader.json".toList, 1, none, 2⟩) := rfl
  have htorn : Filter.ofVariable env.filter = .panicked := rfl
  have hrun : run env = .ofPanic := run_of_torn htorn
  rw [hrun]
  exact ⟨hargs, rfl, rfl⟩

end CommandLine

end DeviceReadings
