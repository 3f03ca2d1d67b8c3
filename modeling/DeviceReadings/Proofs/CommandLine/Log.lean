import DeviceReadings.Proofs.CommandLine.Readings
import DeviceReadings.Proofs.Log.Lines
import DeviceReadings.Proofs.Log.Settings
import DeviceReadings.Proofs.Reader.Fallback

/-!
# What the command logs

What a run of the command that is asked for readings should log, entry by entry: the choice of its
configuration, the seeding of its reader, and each reading, with a warning wherever a seed cannot
be had (`LogEntry.ofRun`). A run logs these entries in this order, but for those that the setting of
the filter keeps back, and nothing else (`run_logs_entries`).

The entries are first the events of the parts of a run: `startSession_log` and `readings_log` say
what is logged until the reader is built, and by the readings after that.
-/

namespace DeviceReadings

/-! ## Entries -/

/-- An entry of the log. -/
structure LogEntry where
  level : Level
  target : String
  message : String
  fields : List (String × FieldValue)
  deriving DecidableEq, Repr

/-- The entry of an event. -/
def Event.entry (e : Event) : LogEntry :=
  ⟨e.level, e.target, e.message, e.fields⟩

namespace LogEntry

/-- The lines of an entry. -/
def lines (e : LogEntry) : List String :=
  linesOf (e.level.label.toList ++ [' '] ++ e.target.toList ++ [':', ' '] ++ e.message.toList ++
    writtenFields e.fields)

/-- The configuration of the file cannot be loaded. -/
def defaultUsed (cause : Failure) : LogEntry :=
  ⟨.warn, "random_reader_standalone", "Using default reader configuration",
    [("error", .plain cause.message)]⟩

/-- This configuration is used. -/
def configured (c : Config) : LogEntry :=
  ⟨.info, "random_reader_standalone", "Reader configured", [("config", .plain c.label)]⟩

/-- A seed cannot be had. -/
def fellBack (cause : Failure) : LogEntry :=
  ⟨.warn, "random_reader_core::random_reader", "Falling back to default seed",
    [("error", .plain cause.message)]⟩

/-- A reader is seeded. -/
def seeded (policy : SeedPolicy) (seed : UInt64) : LogEntry :=
  ⟨.debug, "random_reader_core::random_reader", "Seeding reader",
    [("policy", .plain policy.label), ("seed", .plain (Nat.repr seed.toNat))]⟩

/-- A reading is taken. -/
def reading (device : Int32) (model : Option String) : LogEntry :=
  ⟨.trace, "random_reader_core::random_reader", "Read",
    [("device_id", .plain (decimal device.toInt)), ("model", .quoted (model.getD "<none>"))]⟩

end LogEntry

/-- The entry of a reading is one line on which everything shows, whatever the model is. A model
cannot forge a second entry. -/
theorem LogEntry.lines_reading (device : Int32) (model : Option String) :
    ∃ line : String, (LogEntry.reading device model).lines = [line] ∧
      ∀ c ∈ line.toList, Printable.isShown c = true := by
  let front := "TRACE random_reader_core::random_reader: Read device_id=".toList
  let middle := " model=".toList
  let line := front ++ (decimal device.toInt).toList ++
    (middle ++ Quoted.encode (model.getD "<none>").toList)
  have hlines : (LogEntry.reading device model).lines = linesOf line := by
    simp [LogEntry.lines, LogEntry.reading, writtenFields, FieldValue.written, Level.label, line,
      front, middle]
  have hshown : ∀ c ∈ line, Printable.isShown c = true := by
    intro c hc
    rcases List.mem_append.1 hc with hc | hc
    · rcases List.mem_append.1 hc with hfront | hnumber
      · have hall : front.all Printable.isShown = true := by decide +kernel
        exact List.all_eq_true.1 hall c hfront
      · exact isShown_of_mem_decimal hnumber
    · rcases List.mem_append.1 hc with hmiddle | hquoted
      · have hall : middle.all Printable.isShown = true := by decide +kernel
        exact List.all_eq_true.1 hall c hmiddle
      · exact Quoted.isShown_of_mem_encode hquoted
  rw [hlines, linesOf_of_isShown hshown]
  exact ⟨_, rfl, by rwa [String.toList_ofList]⟩

/-! ## Failures on the way -/

/-- Why a configuration cannot be loaded, if it cannot. -/
def Config.loadFailure? (path : String) (file : FileState) : Option Failure :=
  match Config.load path file with
  | .ok _ => none
  | .error cause => some cause

section

variable {τ : Type} [SeedSource τ]

/-- The failure of the question for the first seed, if the policy asks one and it fails. -/
def firstFailure? (policy : SeedPolicy) (seeds : τ) : Option Failure :=
  match policy with
  | .processDefault | .fixed _ => none
  | .time => failureOf? (SeedSource.time seeds).1
  | .entropy => failureOf? (SeedSource.entropy seeds).1

/-- The failure of the question for the seed of a reading, if the policy asks one and it fails. -/
def readingFailure? (policy : SeedPolicy) (seeds : τ) : Option Failure :=
  match policy with
  | .processDefault | .fixed _ | .entropy => none
  | .time => failureOf? (SeedSource.time seeds).1

/-- The entries of a run: the configuration, the reader, the readings. By the time policy the clock
has been asked for the first seed and for those of the readings before when a reading is taken. -/
def LogEntry.ofRun (options : Options) (file : FileState) (c : Config)
    (policy : SeedPolicy) (seeds : τ) : List LogEntry :=
  let path := String.ofList (Utf8.decodeLossy options.config)
  (Config.loadFailure? path file).toList.map .defaultUsed ++ [.configured c] ++
    (firstFailure? policy seeds).toList.map .fellBack ++
    [.seeded policy (policySeed policy seeds)] ++
    (List.range options.count).flatMap fun k =>
      .reading options.device (options.model.map String.ofList) ::
        (readingFailure? policy (clockAsked (k + 1) seeds)).toList.map .fellBack

/-! ## The reader -/

/-- Of the calls by which a reader is built, the one that fails is that of its first question. -/
theorem failures_seedingCalls (policy : SeedPolicy) (seeds : τ) :
    failures (seedingCalls policy seeds) seeds = (firstFailure? policy seeds).toList := by
  cases policy <;> simp [seedingCalls, failures, Call.failure?, firstFailure?]

/-- Of the calls of a reading, the one that fails is that of its question, which only the time
policy has. -/
theorem failures_readingCalls (policy : SeedPolicy) (seeds : τ) :
    failures (readingCalls policy seeds) seeds = (readingFailure? policy seeds).toList := by
  cases policy <;> simp [readingCalls, failures, Call.failure?, readingFailure?]

/-- The question for the first seed is one question of the clock, by the time policy. Counted from
behind it, the question of a reading comes one later. -/
theorem readingFailure?_seedsAfter (policy : SeedPolicy) (seeds : τ) (k : Nat) :
    readingFailure? policy (clockAsked k (seedsAfter policy seeds)) =
      readingFailure? policy (clockAsked (k + 1) seeds) := by
  cases policy with
  | processDefault | fixed | entropy => rfl
  | time => exact congrArg (readingFailure? .time) (clockAsked_time k seeds)

/-- Where the first question is answered, a reader starts with the seed of the answer, or with the
default seed if the answer is a failure. -/
theorem startingSeed_of_answered {policy : SeedPolicy} {seeds : τ}
    (h : SeedSource.AnswersFirst policy seeds) :
    startingSeed policy seeds = .value (policySeed policy seeds) := by
  cases policy with
  | processDefault | fixed => rfl
  | time | entropy =>
    obtain ⟨answer, hanswer⟩ := h
    simp only [startingSeed, policySeed, hanswer, Outcome.map_value]

/-- A reader that is built logs the failure of its question and then its seed. This is
`Reader.build_log` where the question is answered. -/
theorem Reader.build_log_of_answered {σ : Type} [RandomSource σ] (hr : RandomSource.Restarts σ)
    {policy : SeedPolicy} {seeds : τ} (h : SeedSource.AnswersFirst policy seeds) (source : σ) :
    (Reader.build policy source seeds).log =
      (firstFailure? policy seeds).toList.map .fallback ++
        [.seeding policy (policySeed policy seeds)] := by
  obtain ⟨hlog, -, -⟩ := Reader.build_log policy source seeds
  obtain ⟨-, -, hcalls⟩ := Reader.build_of_answered hr h source
  rw [hlog, hcalls, failures_seedingCalls, startingSeed_of_answered h]
  rfl

/-- Where every question is answered, a reading makes all its calls: none but the draw can panic,
and it is the last one. -/
theorem Reader.read_calls_of_answers {σ : Type} [RandomSource σ] (hs : SeedSource.Answers τ)
    (hr : RandomSource.Restarts σ) (label : Label) (reader : Reader σ) (seeds : τ) :
    (Reader.read .recording label (reader, seeds)).calls = readingCalls reader.policy seeds := by
  by_cases htime : reader.policy = .time
  · obtain ⟨hreport, -⟩ := Reader.read_time hs hr label seeds htime
    rw [htime]
    exact congrArg Prod.snd hreport
  · obtain ⟨hreport, -⟩ := Reader.read_once label seeds htime
    refine (congrArg Prod.snd hreport).trans ?_
    cases hpolicy : reader.policy with
    | time => exact absurd hpolicy htime
    | processDefault | fixed | entropy => rfl

/-- A reading logs itself and then the failure of its question. The new seed of a reading is not
logged. -/
theorem Reader.read_log_of_answers {σ : Type} [RandomSource σ] (hs : SeedSource.Answers τ)
    (hr : RandomSource.Restarts σ) (label : Label) (reader : Reader σ) (seeds : τ) :
    (Reader.read .recording label (reader, seeds)).log =
      .read label.device label.model ::
        (readingFailure? reader.policy seeds).toList.map .fallback := by
  obtain ⟨hlog, -⟩ := Reader.read_log label reader seeds
  rw [hlog, Reader.read_calls_of_answers hs hr, failures_readingCalls]

end

/-- What goes on silently adds nothing to a trace. -/
theorem Run.trace_andThen_of_silent {S α β : Type} (r : Run S α) {k : α → Act S β}
    (h : ∀ a s, (k a s).trace = []) : (r.andThen k).trace = r.trace := by
  cases houtcome : r.outcome with
  | value a => rw [Run.andThen_of_value houtcome, h, List.append_nil]
  | panicked => rw [Run.andThen_of_panicked houtcome]

namespace CommandLine

/-! ## Parts of a run -/

variable {τ : Type} [SeedSource τ]

/-- The entries of the choice of a configuration: the failure of the file if there is one, and then
the configuration. -/
theorem chooseConfig_entries (path : List UInt8) (file : FileState) :
    (chooseConfig path file).2.map Event.entry =
      (Config.loadFailure? (String.ofList (Utf8.decodeLossy path)) file).toList.map .defaultUsed ++
        [.configured (chooseConfig path file).1] := by
  unfold chooseConfig Config.loadFailure?
  cases Config.load (String.ofList (Utf8.decodeLossy path)) file <;> rfl

/-- A session that starts logs the choice of its configuration and what its reader logs. All of this
comes before the first reading. -/
theorem startSession_log {options : Options} {file : FileState} {policy : SeedPolicy} {seeds : τ}
    (hpolicy : (chooseConfig options.config file).1.policy = .ok policy)
    (hfirst : SeedSource.AnswersFirst policy seeds) {run : Run τ Session}
    (hstart : startSession options file seeds = .ok run) :
    run.log = (chooseConfig options.config file).2 ++
      ((firstFailure? policy seeds).toList.map .fallback ++
        [.seeding policy (policySeed policy seeds)]) := by
  let built := Reader.build policy
    (Generator.ofSeed (chooseConfig options.config file).1.backend defaultSeed) seeds
  let opened : Reader Generator → Act τ Session := fun reader s =>
    ⟨.value ⟨reader, ⟨options.device, options.model.map String.ofList⟩⟩, s, []⟩
  have hbuilt : built.log = _ := Reader.build_log_of_answered Generator.seenAs.restarts hfirst _
  have hsilent : (built.andThen opened).trace = built.trace :=
    Run.trace_andThen_of_silent built fun _ _ => rfl
  unfold startSession Reader.ofConfig at hstart
  dsimp only at hstart
  rw [hpolicy] at hstart
  obtain rfl := Except.ok.inj hstart
  show ((chooseConfig options.config file).2.map Effect.event ++
    (built.andThen opened).trace).filterMap Effect.event? = _
  rw [hsilent, List.filterMap_append, List.filterMap_map, ← hbuilt]
  exact congrArg (· ++ _) List.filterMap_some

/-- A session never panics where every question is answered: its reader is around a generator, which
can be drawn from and started afresh in any state. -/
theorem next_value (hs : SeedSource.Answers τ) (session : Session) (seeds : τ) :
    ∃ v, (Session.next (session, seeds)).outcome = .value v := by
  by_cases htime : session.reader.policy = .time
  · obtain ⟨answer, hanswer⟩ := hs.time seeds
    exact ⟨_, Reader.read_time_value Generator.seenAs session.label htime hanswer⟩
  · obtain ⟨hreport, -⟩ := Reader.read_once session.label seeds htime
    exact ⟨_, congrArg Prod.fst hreport⟩

/-- Whether a later question of a session fails is the same after its next reading as before it, one
question of the clock later. -/
theorem next_failure (hs : SeedSource.Answers τ) (session : Session) (seeds : τ) (k : Nat) :
    readingFailure? session.reader.policy (clockAsked k (Session.next (session, seeds)).state.2) =
      readingFailure? session.reader.policy (clockAsked (k + 1) seeds) := by
  cases hpolicy : session.reader.policy with
  | processDefault | fixed | entropy => rfl
  | time =>
    obtain ⟨-, hstate⟩ :=
      Reader.read_time hs Generator.seenAs.restarts session.label seeds hpolicy
    have hleft : (Session.next (session, seeds)).state.2 = (SeedSource.time seeds).2 :=
      congrArg Prod.snd hstate
    rw [hleft, clockAsked_time]

/-- What a session shows in the log while it prints its readings are these readings, each with the
failure of its question. The induction is on their number: the questions of the later readings are
counted from behind that of the next one. -/
theorem printAll_logged (hs : SeedSource.Answers τ) (filter : List Directive) (n : Nat)
    (session : Session) (seeds : τ) :
    (Session.printAll filter n (session, seeds)).logged =
      shownEvents filter ((List.range n).flatMap fun k =>
        .read session.label.device session.label.model ::
          (readingFailure? session.reader.policy (clockAsked k seeds)).toList.map .fallback) := by
  induction n generalizing session seeds with
  | zero => rfl
  | succ n ih =>
    obtain ⟨v, hvalue⟩ := next_value hs session seeds
    have hfirst : (Session.next (session, seeds)).log = _ :=
      Reader.read_log_of_answers hs Generator.seenAs.restarts session.label session.reader seeds
    -- the label and the policy of the session stay as they are
    have hrest : _ = shownEvents filter ((List.range n).flatMap fun k =>
        Event.read session.label.device session.label.model :: (readingFailure?
          session.reader.policy (clockAsked k (Session.next (session, seeds)).state.2)).toList.map
            .fallback) :=
      ih (Session.next (session, seeds)).state.1 (Session.next (session, seeds)).state.2
    simp only [next_failure hs] at hrest
    rw [printAll_succ filter n hvalue, hfirst, List.range_succ_eq_map, List.flatMap_cons,
      List.flatMap_map, shownEvents_append]
    exact congrArg (_ ++ ·) hrest

/-! ## Runs -/

/-- The lines shown of some events are those of the entries that are let through. A filter looks
only at the level and the target of an event, which its entry has too. -/
theorem shownEvents_eq_entries {filter : List Directive} {lets : Level → String → Bool}
    (h : ∀ e, Filter.admits filter e = lets e.level e.target) (events : List Event) :
    shownEvents filter events =
      ((events.map Event.entry).filter fun e => lets e.level e.target).flatMap LogEntry.lines := by
  rw [shownEvents, List.filter_map, List.flatMap_map, funext h]
  rfl

/-- What is logged of the readings of a run are its entries, as far as the filter lets them
through. -/
theorem runReadings_logged (hs : SeedSource.Answers τ) {options : Options} {file : FileState}
    {policy : SeedPolicy} (hpolicy : (chooseConfig options.config file).1.policy = .ok policy)
    {filter : List Directive} {lets : Level → String → Bool}
    (hfilter : ∀ e, Filter.admits filter e = lets e.level e.target) (seeds : τ) :
    (runReadings options filter file seeds).logged =
      ((LogEntry.ofRun options file (chooseConfig options.config file).1 policy seeds).filter
        fun e => lets e.level e.target).flatMap LogEntry.lines := by
  have hfirst := hs.first policy seeds
  obtain ⟨run, hstart, hstate, houtcome⟩ := startSession_of_answered hpolicy hfirst
  have hopened := startSession_log hpolicy hfirst hstart
  rw [runReadings_of_session hstart houtcome]
  dsimp only
  rw [printAll_logged hs, ← shownEvents_append, shownEvents_eq_entries hfilter, hopened, hstate]
  simp only [readingFailure?_seedsAfter, List.map_append, chooseConfig_entries, List.map_flatMap,
    List.map_cons, List.map_map, List.append_assoc, LogEntry.ofRun]
  rfl

/-- **The log of a run is complete and in order, and only the filter keeps anything back.** Whatever
the arguments for readings, the file, and the answers of the clock and the entropy source are, what
is logged are the entries of the run that the setting of the filter lets through, in lines. A
reading takes one line for any model. A torn setting keeps all of this from happening. -/
theorem run_logs_entries (hs : SeedSource.Answers τ) (env : Environment τ) (options : Options)
    (hargs : read env.arguments = .ok (.readings options)) :
    (Filter.ofVariable env.filter = .panicked → run env = .ofPanic) ∧
      ∃ c policy, (env.files options.config).RunsBy c ∧ c.policy = .ok policy ∧
        (∀ lets, FilterSetting env.filter lets →
          (run env).logged =
            ((LogEntry.ofRun options (env.files options.config) c policy env.seeds).filter
              fun e => lets e.level e.target).flatMap LogEntry.lines) ∧
        ∃ line : String,
          (LogEntry.reading options.device (options.model.map String.ofList)).lines = [line] ∧
            ∀ c ∈ line.toList, Printable.isShown c = true := by
  have hruns := chooseConfig_runsBy options.config (env.files options.config)
  obtain ⟨policy, hpolicy⟩ := hruns.exists_policy
  refine ⟨run_of_torn, _, policy, hruns, hpolicy, fun lets h => ?_,
    LogEntry.lines_reading _ _⟩
  obtain ⟨filter, hfilter, hadmits⟩ := Filter.ofVariable_of_setting h
  have hrun : run env = runReadings options filter (env.files options.config) env.seeds :=
    run_of_readings hfilter hargs
  rw [hrun, runReadings_logged hs hpolicy hadmits]

/-- A reading by the clock, which stands before the epoch, with a filter of two targets in which
levels are written as a name and as a number. -/
theorem failing_clock_logged :
    let core : TargetLevel := ⟨"random_reader_core".toList, "Debug".toList, some .debug,
      by decide, List.all_eq_true.1 (by decide +kernel), by decide⟩
    let command : TargetLevel := ⟨"random_reader_standalone".toList, ['2'], some .warn,
      by decide, List.all_eq_true.1 (by decide +kernel), by decide⟩
    let env : Environment SystemSeeds :=
      ⟨[], some (Utf8.encode "random_reader_core=Debug,random_reader_standalone=2".toList),
        fun _ => .contents (Utf8.encode "[\"time\"]".toList), ⟨-1, .ok 0⟩⟩
    SeedSource.Answers SystemSeeds ∧
      read env.arguments = .ok (.readings ⟨Utf8.encode "reader.json".toList, 1, none, 1⟩) ∧
      FilterSetting env.filter (fun level target => [core, command].any fun d =>
        d.target.isPrefixOf target.toList && d.threshold.admits level) ∧
      (run env).logged =
        ["WARN random_reader_core::random_reader: Falling back to default seed " ++
            "error=system clock is set before the Unix epoch",
          "DEBUG random_reader_core::random_reader: Seeding reader policy=Time seed=1",
          "WARN random_reader_core::random_reader: Falling back to default seed " ++
            "error=system clock is set before the Unix epoch"] := by
  intro core command env
  have hargs : read env.arguments =
      .ok (.readings ⟨Utf8.encode "reader.json".toList, 1, none, 1⟩) := rfl
  have hsetting : FilterSetting env.filter (fun level target => [core, command].any fun d =>
      d.target.isPrefixOf target.toList && d.threshold.admits level) :=
    .targets (List.cons_ne_nil core [command]) (by decide)
  have hload : Config.load "" (env.files (Utf8.encode "reader.json".toList)) =
      .ok ⟨.time, none, .std⟩ := by decide +kernel
  obtain ⟨-, c, policy, hruns, hpolicy, hlogged, -⟩ :=
    run_logs_entries SystemSeeds.answers env _ hargs
  obtain rfl := hruns.eq_of_gives (Config.load_eq_ok_iff.1 hload)
  obtain rfl : SeedPolicy.time = policy := Except.ok.inj hpolicy
  refine ⟨SystemSeeds.answers, hargs, hsetting, (hlogged _ hsetting).trans ?_⟩
  decide +kernel

/-- With a no-break space before the directive `a=info`, a filter that is cut inside this character,
a run without a configuration file ends before its warning is logged. -/
theorem torn_filter_logs_nothing :
    let env : Environment SystemSeeds :=
      ⟨[Utf8.encode "--count".toList, Utf8.encode "2".toList],
        some [0xC2, 0xA0, 0x61, 0x3D, 0x69, 0x6E, 0x66, 0x6F], fun _ => .missing, ⟨0, .ok 0⟩⟩
    let options : Options := ⟨Utf8.encode "reader.json".toList, 1, none, 2⟩
    read env.arguments = .ok (.readings options) ∧ Filter.ofVariable env.filter = .panicked ∧
      (∃ entry, (LogEntry.ofRun options .missing Config.default .processDefault env.seeds).filter
        (fun e => Threshold.admits (some .warn) e.level) = [entry]) ∧
      (run env).code = 101 ∧ (run env).logged = [] := by
  intro env options
  have hargs : read env.arguments = .ok (.readings options) := rfl
  have htorn : Filter.ofVariable env.filter = .panicked := rfl
  have hrun : run env = .ofPanic := run_of_torn htorn
  rw [hrun]
  exact ⟨hargs, htorn, ⟨_, rfl⟩, rfl, rfl⟩

end CommandLine

end DeviceReadings
