import DeviceReadings.Config.Basic
import DeviceReadings.Proofs.Reader.Blocks

/-!
# Readings, from backend, policy and answers alone

What a reader gives depends on the kind of its generator, on its policy and on the answers to its
questions for seeds, and on nothing else: not on the state in which it was handed its source, on
what was read before, or on how it is held. `readingBy` writes down each reading from these three.

A source counts as a generator if its calls do what they do on the generator it is seen as
(`SeenAs`). Both generators do, and so does one chosen at run time.
`readings_by_backend_policy_answers` is the main statement.
-/

namespace DeviceReadings

/-! ## Sources that are generators -/

/-- The calls on a source do what they do on the generator that it is seen as. -/
structure SeenAs {σ : Type} [RandomSource σ] (view : σ → Generator) : Prop where
  restarts : RandomSource.Restarts σ
  reseed : ∀ seed source, view (RandomSource.reseed seed source).2 = (view source).reseed seed
  draw : ∀ source, (RandomSource.draw source).1 = .value (view source).next.1
  later : ∀ source, view (RandomSource.draw source).2 = (view source).next.2

/-- A cipher stream is seen as the generator of the standard backend, request by request. -/
theorem CipherStream.seenAs : SeenAs Generator.std :=
  ⟨CipherStream.restarts, fun _ _ => rfl, fun _ => rfl, fun _ => rfl⟩

/-- A product fold is seen as the generator of the fast backend. -/
theorem ProductFold.seenAs : SeenAs Generator.fast :=
  ⟨fun _ _ => rfl, fun _ _ => rfl, fun _ => rfl, fun _ => rfl⟩

/-- A generator chosen at run time is seen as itself. -/
theorem Generator.seenAs : SeenAs fun g : Generator => g :=
  ⟨fun _ _ => rfl, fun _ _ => rfl, fun _ => rfl, fun _ => rfl⟩

/-- Value number `n` of a new generator, counted from 0. -/
def Generator.valueOf (backend : Backend) (seed : UInt64) (n : Nat) : Int32 :=
  (Generator.skip n (.ofSeed backend seed)).next.1

section

variable {σ τ : Type} [RandomSource σ] [SeedSource τ]

namespace SeenAs

variable {view : σ → Generator}

/-- Draws from a source are values skipped in the generator it is seen as. -/
theorem drawn (h : SeenAs view) (source : σ) (n : Nat) :
    view (RandomSource.drawn source n) = Generator.skip n (view source) := by
  induction n generalizing source with
  | zero => rfl
  | succ n ih => rw [RandomSource.drawn, ih, h.later, Generator.skip]

/-- Once started afresh from a seed a source gives the values of a new generator of its kind. -/
theorem reading (h : SeenAs view) (seed : UInt64) (source : σ) (n : Nat) :
    RandomSource.reading (RandomSource.reseed seed source).2 n =
      .value (Generator.valueOf (view source).backend seed n) := by
  rw [RandomSource.reading, h.draw, h.drawn, h.reseed]
  rfl

end SeenAs

/-! ## Readings, one by one -/

/-- Reading number `k` by a policy, counted from 0. By the time policy the clock's first answer has
gone into the building. -/
def readingBy (backend : Backend) (policy : SeedPolicy) (seeds : τ) (k : Nat) : Int32 :=
  match policy with
  | .processDefault => Generator.valueOf backend 1 k
  | .fixed seed => Generator.valueOf backend seed k
  | .entropy => Generator.valueOf backend (seedOf (SeedSource.entropy seeds).1) k
  | .time =>
    Generator.valueOf backend (seedOf (SeedSource.time (clockAsked (k + 1) seeds)).1) 0

/-- The questions that a reader asks by a policy, up to reading number `n`, are all answered. -/
def Answered (policy : SeedPolicy) (seeds : τ) (n : Nat) : Prop :=
  match policy with
  | .processDefault | .fixed _ => True
  | .entropy => ∃ answer, (SeedSource.entropy seeds).1 = .value answer
  | .time => ∀ k ≤ n, ∃ answer, (SeedSource.time (clockAsked k seeds)).1 = .value answer

/-- A life shows a reader that is built and gives some readings. -/
def Gives (life : List (Run τ (Option Int32))) (readings : List Int32) : Prop :=
  life.map Run.outcome = .value none :: readings.map fun value => .value (some value)

/-! ## Readings in a row -/

/-- The clock asked once and then some more times has been asked once more than that. -/
theorem clockAsked_time (n : Nat) (seeds : τ) :
    clockAsked n (SeedSource.time seeds).2 = clockAsked (n + 1) seeds := by
  induction n with
  | zero => rfl
  | succ n ih => exact congrArg (fun later => (SeedSource.time later).2) ih

/-- Where the questions of a reader are answered, its first one is. -/
theorem Answered.first {policy : SeedPolicy} {seeds : τ} {n : Nat} (h : Answered policy seeds n) :
    SeedSource.AnswersFirst policy seeds := by
  cases policy with
  | processDefault | fixed => trivial
  | entropy => exact h
  | time => exact h 0 (Nat.zero_le n)

namespace Reader

/-- A reader that is seeded once gives the readings of its source in order. -/
theorem history_once {reader : Reader σ} (h : reader.policy ≠ .time) (labels : List Label)
    (seeds : τ) :
    (Act.history (Reader.read .recording) labels (reader, seeds)).map Run.outcome =
      (List.range labels.length).map (RandomSource.reading reader.source) := by
  refine RandomSource.history_draws
    (R := fun s source => s.1.policy ≠ .time ∧ s.1.source = source) ?_ labels ⟨h, rfl⟩
  rintro label ⟨reader, seeds⟩ source ⟨hp, rfl⟩
  obtain ⟨hreport, hstate⟩ := Reader.read_once label seeds hp
  exact ⟨congrArg Prod.fst hreport, by rw [hstate]; exact ⟨hp, rfl⟩⟩

variable {view : σ → Generator}

/-- Under the time policy every reading is the first value of a new generator, seeded with the
clock's answer to its question. -/
theorem read_time_value (hview : SeenAs view) (label : Label) {reader : Reader σ} {seeds : τ}
    (h : reader.policy = .time) {answer : Except Failure UInt64}
    (hanswer : (SeedSource.time seeds).1 = .value answer) :
    (Reader.read .recording label (reader, seeds)).outcome =
      .value (Generator.valueOf (view reader.source).backend (seedOf (.value answer)) 0) := by
  obtain ⟨hreport, -⟩ := Reader.read_time_of_answered hview.restarts label ⟨answer, hanswer⟩ h
  rw [hanswer] at hreport
  exact (congrArg Prod.fst hreport).trans (hview.reading _ reader.source 0)

/-- So do readings in a row, with one answer after another. The induction is on the readings, with
the clock asked once more at each. -/
theorem history_time (hview : SeenAs view) (labels : List Label) (reader : Reader σ) (seeds : τ)
    (h : reader.policy = .time)
    (hanswers : ∀ k < labels.length, ∃ answer,
      (SeedSource.time (clockAsked k seeds)).1 = .value answer) :
    (Act.history (Reader.read .recording) labels (reader, seeds)).map Run.outcome =
      (List.range labels.length).map fun k => .value (Generator.valueOf
        (view reader.source).backend (seedOf (SeedSource.time (clockAsked k seeds)).1) 0) := by
  induction labels generalizing reader seeds with
  | nil => rfl
  | cons label rest ih =>
    obtain ⟨answer, hclock⟩ := hanswers 0 (Nat.succ_pos _)
    have hanswer : (SeedSource.time seeds).1 = .value answer := hclock
    obtain ⟨-, hstate⟩ := Reader.read_time_of_answered hview.restarts label ⟨answer, hanswer⟩ h
    have hkind : (view (Reader.read .recording label (reader, seeds)).state.1.source).backend =
        (view reader.source).backend := by
      rw [hstate, hview.later, hview.reseed, Generator.backend_next, Generator.reseed,
        Generator.backend_ofSeed]
    have hrest := ih (Reader.read .recording label (reader, seeds)).state.1
      (SeedSource.time seeds).2 (by rw [hstate]) fun k hk => by
        rw [clockAsked_time]
        exact hanswers (k + 1) (Nat.succ_lt_succ hk)
    rw [hkind] at hrest
    simp only [clockAsked_time] at hrest
    rw [Act.history_cons, List.map_cons, read_time_value hview label h hanswer,
      List.length_cons, List.range_succ_eq_map, List.map_cons, List.map_map, ← hanswer]
    refine congrArg _ (Eq.trans ?_ hrest)
    rw [hstate]

/-- Where the questions are answered, a new reader gives the readings of its kind, its policy and
the answers. -/
theorem history_new (hview : SeenAs view) {policy : SeedPolicy} (source : σ) {seeds : τ}
    (labels : List Label) (h : Answered policy seeds labels.length) :
    let fresh := (RandomSource.reseed (policySeed policy seeds) source).2
    (Act.history (Reader.read .recording) labels (⟨fresh, policy⟩, seedsAfter policy seeds)).map
        Run.outcome =
      (List.range labels.length).map fun k =>
        .value (readingBy (view source).backend policy seeds k) := by
  intro fresh
  cases policy with
  | processDefault | fixed | entropy =>
    rw [history_once (by simp)]
    exact List.map_congr_left fun k _ => hview.reading _ source k
  | time =>
    have hkind : (view fresh).backend = (view source).backend := by
      rw [hview.reseed, Generator.reseed, Generator.backend_ofSeed]
    have hreadings := history_time hview labels ⟨fresh, .time⟩ (SeedSource.time seeds).2 rfl
      fun k hk => by
        rw [clockAsked_time]
        exact h (k + 1) hk
    simp only [clockAsked_time, hkind] at hreadings
    exact hreadings

/-- Where its questions are answered a reader is built and gives the readings of its kind, its
policy and the answers. -/
theorem life_gives (hview : SeenAs view) {policy : SeedPolicy} (source : σ) {seeds : τ}
    (labels : List Label) (h : Answered policy seeds labels.length) :
    Gives (Reader.life (Reader.build policy source seeds) labels)
      ((List.range labels.length).map (readingBy (view source).backend policy seeds)) := by
  obtain ⟨houtcome, hstate, -⟩ := Reader.build_of_answered hview.restarts h.first source
  have hreadings := congrArg (List.map (Outcome.map some)) (history_new hview source labels h)
  simp only [List.map_map, Function.comp_def, Outcome.map_value] at hreadings
  simp only [Gives, Reader.life, lifeHeld, houtcome, hstate, id, List.map_cons, List.map_map,
    Outcome.map_value, Function.comp_def]
  exact congrArg _ hreadings

/-! ## The clock -/

/-- The readings of a reader that is seeded once take draws only. -/
theorem calls_of_mem_history (reader : Reader σ) (h : reader.policy ≠ .time) (labels : List Label)
    (seeds : τ) :
    ∀ run ∈ Act.history (Reader.read .recording) labels (reader, seeds), run.calls = [.draw] := by
  induction labels generalizing reader seeds with
  | nil => exact nofun
  | cons label rest ih =>
    obtain ⟨hreport, hstate⟩ := Reader.read_once label seeds h
    intro run hrun
    rcases List.mem_cons.1 hrun with rfl | hrest
    · exact congrArg Prod.snd hreport
    · rw [hstate] at hrest
      exact ih ⟨(RandomSource.draw reader.source).2, reader.policy⟩ h seeds run hrest

/-- A reader that is seeded once never asks the clock, neither when it is built nor later. -/
theorem life_once {policy : SeedPolicy} (h : policy ≠ .time) (source : σ) (seeds : τ)
    (labels : List Label) :
    .timeSeed ∉ (Reader.life (Reader.build policy source seeds) labels).flatMap Run.calls := by
  have hbuilt : .timeSeed ∉ (Reader.build policy source seeds).calls := by
    have hreport := Reader.build_report policy source seeds
    have hcalls : (Reader.build policy source seeds).calls =
        (attempt (seedingCalls policy seeds) (source, seeds)).made := congrArg Prod.snd hreport
    rw [hcalls]
    intro hmade
    have hlisted := mem_of_mem_made hmade
    cases policy with
    | time => exact absurd rfl h
    | processDefault | fixed | entropy => simp [seedingCalls] at hlisted
  cases ho : (Reader.build policy source seeds).outcome with
  | panicked =>
    simp only [Reader.life, lifeHeld, ho, List.flatMap_cons, List.flatMap_nil, List.append_nil]
    exact hbuilt
  | value reader =>
    have hpolicy : reader.policy = policy := by
      rw [(Reader.build_state policy source seeds).2 reader ho]
    simp only [Reader.life, lifeHeld, ho, List.flatMap_cons, List.flatMap_map, List.mem_append,
      not_or]
    refine ⟨hbuilt, fun hmem => ?_⟩
    obtain ⟨run, hrun, hcall⟩ := List.mem_flatMap.1 hmem
    have hcalls := calls_of_mem_history reader (hpolicy ▸ h) labels _ run hrun
    have hasked : Call.timeSeed ∈ run.calls := hcall
    rw [hcalls] at hasked
    cases List.mem_singleton.1 hasked

end Reader

end

/-! ## All readers -/

/-- **Readings depend on backend, policy and answers alone.** Both generators are sources that are
seen as generators, and so is one chosen at run time. Take such a source in any state and seeds
whose questions are answered, be it with failures. A reader built around the source, held directly
or behind a lock, and one built by a configuration with the same backend and policy, all give the
readings of that backend, the policy and the answers. Two readings under the time policy are the
same wherever backend and answer are, whatever went before, and a reader of another policy never
asks the clock. -/
theorem readings_by_backend_policy_answers :
    (SeenAs Generator.std ∧ SeenAs Generator.fast ∧ SeenAs fun g : Generator => g) ∧
    ∀ {σ τ : Type} [RandomSource σ] [SeedSource τ] {view : σ → Generator}, SeenAs view →
      (∀ (policy : SeedPolicy) (source : σ) (seeds : τ) (labels : List Label),
        let built := Reader.build policy source seeds
        (Answered policy seeds labels.length →
          let readings :=
            (List.range labels.length).map (readingBy (view source).backend policy seeds)
          Gives (Reader.life built labels) readings ∧
            Gives (SharedReader.life built labels) readings ∧
            ∀ c : Config, c.backend = (view source).backend → c.policy = .ok policy →
              ∃ configured, Reader.ofConfig c seeds = .ok configured ∧
                Gives (Reader.life configured labels) readings) ∧
        (policy ≠ .time → .timeSeed ∉ (Reader.life built labels).flatMap Run.calls)) ∧
      ∀ {σ' τ' : Type} [RandomSource σ'] [SeedSource τ'] {view' : σ' → Generator}, SeenAs view' →
        ∀ (reader : Reader σ) (reader' : Reader σ') (seeds : τ) (seeds' : τ')
          (label label' : Label) (answer : Except Failure UInt64),
        reader.policy = .time → reader'.policy = .time →
        (view reader.source).backend = (view' reader'.source).backend →
        (SeedSource.time seeds).1 = .value answer → (SeedSource.time seeds').1 = .value answer →
          ∃ value, (Reader.read .recording label (reader, seeds)).outcome = .value value ∧
            (Reader.read .recording label' (reader', seeds')).outcome = .value value := by
  refine ⟨⟨CipherStream.seenAs, ProductFold.seenAs, Generator.seenAs⟩, ?_⟩
  intro σ τ _ _ view hview
  refine ⟨fun policy source seeds labels => ⟨fun h => ⟨?_, ?_, fun c hbackend hpolicy => ?_⟩,
    fun h => Reader.life_once h source seeds labels⟩, ?_⟩
  · exact Reader.life_gives hview source labels h
  · rw [SharedReader.life_eq]
    exact Reader.life_gives hview source labels h
  · refine ⟨_, congrArg (Except.map _) hpolicy, ?_⟩
    have hgives :=
      Reader.life_gives Generator.seenAs (Generator.ofSeed c.backend defaultSeed) labels h
    rw [Generator.backend_ofSeed] at hgives
    rw [← hbackend]
    exact hgives
  · intro σ' τ' _ _ view' hview' reader reader' seeds seeds' label label' answer h h' hkind ha ha'
    refine ⟨_, Reader.read_time_value hview label h ha, ?_⟩
    rw [Reader.read_time_value hview' label' h' ha', hkind]

/-- A clock that answers, fails and answers with the default seed, asked for a fold that has been
drawn from before: both readings are the first value of the default seed, and a configured reader
gives them too. -/
theorem failing_clock_readings :
    let seeds : ReplayedSeeds :=
      ⟨[.value (.ok 5), .value (.error .clockBeforeEpoch), .value (.ok 1)], []⟩
    let labels : List Label := [⟨0, none⟩, ⟨1, some "m"⟩]
    let used : ProductFold := (ProductFold.ofSeed 9).next.2
    Answered .time seeds labels.length ∧
      Gives (Reader.life (Reader.build .time used seeds) labels) [1533599576, 1533599576] ∧
      ∃ configured, Reader.ofConfig ⟨.time, none, .fast⟩ seeds = .ok configured ∧
        Gives (Reader.life configured labels) [1533599576, 1533599576] := by
  intro seeds labels used
  have hanswered : Answered .time seeds labels.length := by
    intro k hk
    match k, hk with
    | 0, _ => exact ⟨_, rfl⟩
    | 1, _ => exact ⟨_, rfl⟩
    | 2, _ => exact ⟨_, rfl⟩
  have hvalues : (List.range labels.length).map (readingBy .fast .time seeds) =
      [1533599576, 1533599576] := by decide
  obtain ⟨⟨-, hfast, -⟩, hall⟩ := readings_by_backend_policy_answers
  obtain ⟨hgives, -⟩ := (hall hfast).1 .time used seeds labels
  obtain ⟨hdirect, -, hconfigured⟩ := hgives hanswered
  have hkind : (Generator.fast used).backend = .fast := rfl
  rw [hkind, hvalues] at hdirect
  obtain ⟨configured, hok, hsame⟩ := hconfigured ⟨.time, none, .fast⟩ rfl rfl
  rw [hkind, hvalues] at hsame
  exact ⟨hanswered, hdirect, configured, hok, hsame⟩

end DeviceReadings
