import DeviceReadings.Proofs.Reader.Lazy
import Mathlib.Data.List.Perm.Basic

/-!
# Readings shared among threads

Threads that read from one reader take turns under its lock, in an order that nobody controls. An
order is an interleaving of the threads' own requests (`Interleaves`), and `OneSequence` says what
can be relied on whatever it is: in the order of the lock the values are the consecutive ones of one
sequence, each thread gets some of them in its own order, and all orders hand out the same values.

`threads_share_one_sequence` proves this of shared readers and of lazy ones under every policy but
the time policy, and that the lazy ones build a reader once if the one in use does not fit.
-/

namespace DeviceReadings

variable {ι : Type}

section

variable [DecidableEq ι]

/-! ## Interleavings -/

/-- The entries of one thread among those of all. -/
def ofThread {β : Type} (i : ι) (entries : List (ι × β)) : List β :=
  entries.filterMap fun entry => if entry.1 = i then some entry.2 else none

/-- An order of requests in which every thread makes its own requests in turn. -/
def Interleaves (requests : ι → List Label) (order : List (ι × Label)) : Prop :=
  ∀ i, ofThread i order = requests i

/-- What one thread receives when values are handed out in an order of requests. -/
def received {β : Type} (i : ι) (order : List (ι × Label)) (values : List β) : List β :=
  ofThread i ((order.map Prod.fst).zip values)

/-- A thread's entries occur as often among its own as among all. -/
theorem count_ofThread {β : Type} [DecidableEq β] (i : ι) (b : β) (entries : List (ι × β)) :
    (ofThread i entries).count b = entries.count (i, b) := by
  induction entries with
  | nil => rfl
  | cons entry rest ih =>
    obtain ⟨j, b'⟩ := entry
    by_cases hj : j = i
    · simp [ofThread, List.count_cons, hj, ← ih]
    · simp [ofThread, hj, ← ih]

/-- Two interleavings of the same requests differ in nothing but the order: every entry is one of
some thread, and occurs as often as among the requests of this thread. -/
theorem Interleaves.perm {requests : ι → List Label} {order other : List (ι × Label)}
    (h : Interleaves requests order) (h' : Interleaves requests other) : order.Perm other := by
  refine List.perm_iff_count.2 fun entry => ?_
  obtain ⟨i, label⟩ := entry
  rw [← count_ofThread, ← count_ofThread, h i, h' i]

/-- A thread's entries are some of all entries, in the same order. -/
theorem ofThread_sublist {β : Type} (i : ι) (entries : List (ι × β)) :
    (ofThread i entries).Sublist (entries.map Prod.snd) := by
  induction entries with
  | nil => exact .slnil
  | cons entry rest ih =>
    by_cases hj : entry.1 = i
    · simpa [ofThread, hj] using ih
    · simpa [ofThread, hj] using ih.cons entry.2

/-- A thread receives a value for each of its requests. -/
theorem length_received {β : Type} (i : ι) (order : List (ι × Label)) (values : List β)
    (h : values.length = order.length) :
    (received i order values).length = (ofThread i order).length := by
  induction order generalizing values with
  | nil => rfl
  | cons entry rest ih =>
    cases values with
    | nil => cases h
    | cons value later =>
      have hlater := ih later (by simpa using h)
      by_cases hj : entry.1 = i
      · simpa [received, ofThread, hj] using hlater
      · simpa [received, ofThread, hj] using hlater

/-- What a thread receives are some of the values, in the same order. -/
theorem received_sublist {β : Type} (i : ι) (order : List (ι × Label)) (values : List β)
    (h : values.length = order.length) : (received i order values).Sublist values := by
  have hsnd := ofThread_sublist i ((order.map Prod.fst).zip values)
  rwa [List.map_snd_zip (by simp [h])] at hsnd

/-! ## One sequence for all -/

/-- Whatever the order, the values served are the consecutive ones of a sequence, each thread gets
as many as it asked for in its own order, and other orders hand out the same values. -/
def OneSequence (sequence : Nat → Outcome Int32) (requests : ι → List Label)
    (serve : List (ι × Label) → List (Outcome Int32)) : Prop :=
  ∀ order, Interleaves requests order →
    serve order = (List.range order.length).map sequence ∧
      (∀ i, (received i order (serve order)).length = (requests i).length ∧
        (received i order (serve order)).Sublist ((List.range order.length).map sequence)) ∧
      ∀ other, Interleaves requests other → (serve order).Perm (serve other)

/-- It is enough that every order be served the consecutive values. What a thread receives then
depends on nothing but the places of its requests in the order. -/
theorem oneSequence_of_eq {sequence : Nat → Outcome Int32} {requests : ι → List Label}
    {serve : List (ι × Label) → List (Outcome Int32)}
    (h : ∀ order, serve order = (List.range order.length).map sequence) :
    OneSequence sequence requests serve := by
  intro order horder
  have hlength : (serve order).length = order.length := by simp [h]
  refine ⟨h order, fun i => ⟨?_, ?_⟩, fun other hother => ?_⟩
  · rw [length_received i order _ hlength, horder i]
  · rw [← h order]
    exact received_sublist i order _ hlength
  · rw [h order, h other, (horder.perm hother).length_eq]

end

section

variable {σ τ : Type} [RandomSource σ] [SeedSource τ]

/-! ## Shared readers -/

/-- The runs of the readings of some threads from a shared reader, in the order of the lock. -/
def SharedReader.serve (order : List (ι × Label)) (shared : SharedReader σ) (seeds : τ) :
    List (Run (SharedReader σ × τ) Int32) :=
  Act.history (fun request => SharedReader.read .recording request.2) order (shared, seeds)

/-- A shared reader that is seeded once serves the readings of its source in order. -/
theorem SharedReader.serve_outcomes (order : List (ι × Label)) (shared : SharedReader σ)
    (seeds : τ) (h : shared.value.policy ≠ .time) :
    (SharedReader.serve order shared seeds).map Run.outcome =
      (List.range order.length).map (RandomSource.reading shared.value.source) := by
  refine RandomSource.history_draws
    (R := fun s g => s.1.value.policy ≠ .time ∧ s.1.value.source = g) ?_ order ⟨h, rfl⟩
  rintro request ⟨shared, seeds⟩ g ⟨hp, rfl⟩
  obtain ⟨hreport, hstate⟩ := Reader.read_once request.2 seeds hp
  have hvalue : (SharedReader.read .recording request.2 (shared, seeds)).state.1.value =
      ⟨(RandomSource.draw shared.value.source).2, shared.value.policy⟩ := congrArg Prod.fst hstate
  exact ⟨congrArg Prod.fst hreport, by rw [hvalue]; exact ⟨hp, rfl⟩⟩

/-! ## Lazy readers -/

/-- The runs of the readings of some threads by one policy from a lazy reader, in the order of the
lock. -/
def LazyReader.serve (policy : SeedPolicy) (order : List (ι × Label)) (reader : LazyReader)
    (seeds : τ) : List (Run (LazyReader × τ) Int32) :=
  Act.history (fun request => LazyReader.read policy .recording request.2) order (reader, seeds)

/-- One reading by a policy that seeds once: the calls of what is prepared, and a draw from it. -/
theorem LazyReader.read_once (hs : SeedSource.Answers τ) {policy : SeedPolicy}
    (h : policy ≠ .time) (label : Label) (reader : LazyReader) (seeds : τ) :
    let p := LazyReader.prepared policy reader.value seeds
    let run := LazyReader.read policy .recording label (reader, seeds)
    run.report = ((RandomSource.draw p.reader.source).1, p.calls ++ [.draw]) ∧
      run.state.1.value = some ⟨(RandomSource.draw p.reader.source).2, policy⟩ := by
  intro p run
  have hp : p.reader.policy ≠ .time := by rwa [LazyReader.policy_prepared]
  obtain ⟨hreport, hstate⟩ := Reader.read_once label p.seeds hp
  obtain ⟨houtcome, hcalls⟩ := Prod.mk.inj hreport
  refine ⟨?_, ?_⟩
  · rw [LazyReader.read_report hs, houtcome, hcalls]
  · rw [(LazyReader.read_state hs policy .recording label reader seeds).1, hstate,
      LazyReader.policy_prepared]

/-- By a policy that seeds once a lazy reader serves the readings of the source prepared. Only the
first reading has anything to prepare. -/
theorem LazyReader.serve_outcomes (hs : SeedSource.Answers τ) {policy : SeedPolicy}
    (h : policy ≠ .time) (order : List (ι × Label)) (reader : LazyReader) (seeds : τ) :
    (LazyReader.serve policy order reader seeds).map Run.outcome =
      (List.range order.length).map
        (RandomSource.reading (LazyReader.prepared policy reader.value seeds).reader.source) := by
  refine RandomSource.history_draws
    (R := fun s g => (LazyReader.prepared policy s.1.value s.2).reader.source = g) ?_ order rfl
  rintro request ⟨reader, seeds⟩ g rfl
  obtain ⟨hreport, hvalue⟩ := LazyReader.read_once hs h request.2 reader seeds
  exact ⟨congrArg Prod.fst hreport, by rw [hvalue, LazyReader.prepared_some]⟩

/-- By a policy that seeds once the first reading makes the calls of what is prepared, and every
reading draws; no other call is made. -/
theorem LazyReader.serve_calls (hs : SeedSource.Answers τ) {policy : SeedPolicy}
    (h : policy ≠ .time) (order : List (ι × Label)) (reader : LazyReader) (seeds : τ) :
    (LazyReader.serve policy order reader seeds).flatMap Run.calls =
      (if order = [] then [] else (LazyReader.prepared policy reader.value seeds).calls) ++
        List.replicate order.length .draw := by
  induction order generalizing reader seeds with
  | nil => rfl
  | cons request rest ih =>
    obtain ⟨hreport, hvalue⟩ := LazyReader.read_once hs h request.2 reader seeds
    have hcalls := congrArg Prod.snd hreport
    simp only [Run.report] at hcalls
    have hrest := ih (LazyReader.read policy .recording request.2 (reader, seeds)).state.1
      (LazyReader.read policy .recording request.2 (reader, seeds)).state.2
    rw [hvalue, LazyReader.prepared_some, ite_self, List.nil_append] at hrest
    simp only [LazyReader.serve, Act.history_cons, List.flatMap_cons, hcalls, reduceCtorEq,
      if_false, List.length_cons, List.append_assoc, List.replicate_succ]
    exact congrArg _ (congrArg _ hrest)

/-! ## Both kinds -/

/-- **Threads share one sequence.** Under a policy that seeds once, threads that read from a shared
reader are handed the consecutive readings of its source, whatever their interleaving. Threads that
read by one such policy from a lazy reader are handed those of the reader in use if it was built for
the policy, and then nothing is built; otherwise those of a generator freshly seeded by the policy,
and a reader is built once, by the first reading. -/
theorem threads_share_one_sequence [DecidableEq ι] {policy : SeedPolicy} (hp : policy ≠ .time)
    (requests : ι → List Label) :
    (∀ (shared : SharedReader σ) (seeds : τ), shared.value.policy = policy →
      OneSequence (RandomSource.reading shared.value.source) requests
        fun order => (SharedReader.serve order shared seeds).map Run.outcome) ∧
    (SeedSource.Answers τ → ∀ (lazy : LazyReader) (seeds : τ),
      (∀ reader, lazy.value = some reader → reader.policy = policy →
        OneSequence (RandomSource.reading reader.source) requests
            (fun order => (LazyReader.serve policy order lazy seeds).map Run.outcome) ∧
          ∀ order : List (ι × Label),
            (LazyReader.serve policy order lazy seeds).flatMap Run.calls =
              List.replicate order.length .draw) ∧
      ((∀ reader, lazy.value = some reader → reader.policy ≠ policy) →
        OneSequence (RandomSource.reading (CipherStream.ofSeed (policySeed policy seeds))) requests
            (fun order => (LazyReader.serve policy order lazy seeds).map Run.outcome) ∧
          ∀ order : List (ι × Label), order ≠ [] →
            (LazyReader.serve policy order lazy seeds).flatMap Run.calls =
              seedingCalls policy seeds ++ List.replicate order.length .draw)) := by
  refine ⟨fun shared seeds h => ?_, fun hs lazy seeds => ⟨fun reader hslot h => ?_, fun h => ?_⟩⟩
  · exact oneSequence_of_eq fun order => SharedReader.serve_outcomes order shared seeds (h ▸ hp)
  · have hprepared := LazyReader.prepared_of_fits h seeds
    rw [← hslot] at hprepared
    refine ⟨oneSequence_of_eq fun order => ?_, fun order => ?_⟩
    · rw [LazyReader.serve_outcomes hs hp, hprepared]
    · rw [LazyReader.serve_calls hs hp, hprepared, ite_self, List.nil_append]
  · have hprepared := LazyReader.prepared_of_unfit h seeds
    refine ⟨oneSequence_of_eq fun order => ?_, fun order horder => ?_⟩
    · rw [LazyReader.serve_outcomes hs hp, hprepared]
    · rw [LazyReader.serve_calls hs hp, hprepared, if_neg horder]

end

/-- Two threads over an entropy source that fails: one seed for both of them, and their values taken
in turns from the sequence that follows. -/
theorem two_threads_share_one_sequence :
    let requests : Bool → List Label := fun second =>
      if second then [⟨1, none⟩] else [⟨0, none⟩, ⟨0, some "m"⟩]
    let order := [(false, ⟨0, none⟩), (true, ⟨1, none⟩), (false, ⟨0, some "m"⟩)]
    let shared : SharedReader ReplayedReadings :=
      ⟨⟨.ofList [.value 7, .value 8], .entropy⟩, true⟩
    let seeds : SystemSeeds := ⟨0, .error "no entropy"⟩
    Interleaves requests order ∧ SeedSource.Answers SystemSeeds ∧
      (SharedReader.serve order shared seeds).map Run.outcome =
        [.value 7, .value 8, .value 7] ∧
      (LazyReader.serve .entropy order .unbuilt seeds).map Run.outcome =
        [0, 1, 2].map (RandomSource.reading (CipherStream.ofSeed 1)) ∧
      (LazyReader.serve .entropy order .unbuilt seeds).flatMap Run.calls =
        [.entropySeed, .reseed 1, .draw, .draw, .draw] := by
  intro requests order shared seeds
  have horder : Interleaves requests order := fun i => by cases i <;> rfl
  have h := threads_share_one_sequence (σ := ReplayedReadings) (τ := SystemSeeds)
    (show SeedPolicy.entropy ≠ .time by decide) requests
  obtain ⟨hsequence, hcalls⟩ := (h.2 SystemSeeds.answers .unbuilt seeds).2 nofun
  exact ⟨horder, SystemSeeds.answers, (h.1 shared seeds rfl order horder).1.trans (by decide),
    (hsequence order horder).1, (hcalls order nofun).trans rfl⟩

end DeviceReadings
