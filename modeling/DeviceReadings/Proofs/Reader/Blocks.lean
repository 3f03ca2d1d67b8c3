import DeviceReadings.Proofs.Reader.Lazy
import Mathlib.Data.List.SplitBy

/-!
# Lazy readers, block by block

The visits to a lazy reader fall into blocks of visits by one policy (`blocks`). A block begins with
a reader built for its policy, and its completed visits get the values of that reader from the first
one on; a visit whose announcement panics gets nothing and leaves the sequence where it was, though
it may be the one that built the reader. `blockwise` writes this down for a list of blocks without
mentioning a slot or a lock, and `lazy_history_blockwise` says that every history of a new lazy
reader is what `blockwise` makes of its blocks.

Within a block `Stands` ties the reader in the slot to the number of visits completed so far; it
holds of the reader that is prepared at the beginning of a block and is kept by every visit.
-/

namespace DeviceReadings

/-- A request to a lazy reader. -/
structure Visit where
  policy : SeedPolicy
  listener : Listener
  label : Label
  deriving DecidableEq, Repr

namespace Visit

/-- Does a visit come to a reading? -/
def completes (v : Visit) : Bool :=
  v.listener = .recording

end Visit

/-- The longest stretches of visits by one policy. -/
def blocks (visits : List Visit) : List (List Visit) :=
  visits.splitBy fun u v => u.policy = v.policy

section

variable {τ : Type} [SeedSource τ]

/-! ## What a block gives -/

/-- The seeds that are left after some questions to the clock. -/
def clockAsked : Nat → τ → τ
  | 0, seeds => seeds
  | n + 1, seeds => (SeedSource.time (clockAsked n seeds)).2

/-- The seeds that are left in a block after `j` completed visits. The first visit has asked for the
seed of the reader; later questions are those of the readings under the time policy. -/
def blockSeeds (policy : SeedPolicy) (seeds : τ) (j : Nat) : τ :=
  match policy with
  | .processDefault | .fixed _ => seeds
  | .time => clockAsked (j + 1) seeds
  | .entropy => (SeedSource.entropy seeds).2

/-- The value of a completed visit after `j` others in its block. -/
def blockReading (policy : SeedPolicy) (seeds : τ) (j : Nat) : Int32 :=
  match policy with
  | .processDefault => (CipherStream.ofSeed 1).nth j
  | .fixed seed => (CipherStream.ofSeed seed).nth j
  | .entropy => (CipherStream.ofSeed (seedOf (SeedSource.entropy seeds).1)).nth j
  | .time =>
    let answer := (SeedSource.time (clockAsked (j + 1) seeds)).1
    (CipherStream.ofSeed (seedOf answer)).nth 0

/-- What visit number `i` of a block comes to, and the calls that it makes: those that build a
reader if it is the first one, and those of a reading if it completes. -/
def blockReport (block : List Visit) (seeds : τ) (i : Nat) (v : Visit) :
    Outcome Int32 × List Call :=
  let j := (block.take i).countP Visit.completes
  let building := if i = 0 then seedingCalls v.policy seeds else []
  match v.listener with
  | .recording =>
    (.value (blockReading v.policy seeds j),
      building ++ readingCalls v.policy (blockSeeds v.policy seeds j))
  | .failing => (.panicked, building)

/-- The seeds that are left after a block. -/
def seedsAfterBlock (block : List Visit) (seeds : τ) : τ :=
  match block with
  | [] => seeds
  | v :: _ => blockSeeds v.policy seeds (block.countP Visit.completes)

/-- What the visits of some blocks come to, and the calls that they make. -/
def blockwise : List (List Visit) → τ → List (Outcome Int32 × List Call)
  | [], _ => []
  | block :: later, seeds =>
    block.mapIdx (blockReport block seeds) ++ blockwise later (seedsAfterBlock block seeds)

namespace LazyReader

/-- Does what a visit asks for. -/
def visit (v : Visit) : Act (LazyReader × τ) Int32 :=
  LazyReader.read v.policy v.listener v.label

/-! ## One visit -/

/-- A reader with its seeds stands where a block by a policy is after `j` completed visits. Under
the time policy nothing is asked of the source, which is started afresh before every draw. -/
structure Stands (policy : SeedPolicy) (seeds : τ) (j : Nat) (p : Prepared τ) : Prop where
  policy_eq : p.reader.policy = policy
  seeds_eq : p.seeds = blockSeeds policy seeds j
  source_eq : policy ≠ .time →
    p.reader.source = RandomSource.drawn (CipherStream.ofSeed (policySeed policy seeds)) j

/-- A new reader stands at the beginning of a block, with its first question asked. -/
theorem stands_new (policy : SeedPolicy) (seeds : τ) (calls : List Call) :
    Stands policy seeds 0
      ⟨⟨CipherStream.ofSeed (policySeed policy seeds), policy⟩, seedsAfter policy seeds,
        calls⟩ where
  policy_eq := rfl
  seeds_eq := by cases policy <;> rfl
  source_eq _ := rfl

variable {policy : SeedPolicy} {seeds : τ} {j : Nat} {p : Prepared τ}

/-- A completed reading comes to the value of its place in the block and moves one place on. Under
the time policy the value is by the clock's answer to this reading; under the others it is the next
one of the source. -/
theorem Stands.read_recording (hs : SeedSource.Answers τ) (h : Stands policy seeds j p)
    (label : Label) :
    let run := Reader.read .recording label (p.reader, p.seeds)
    run.report =
        (.value (blockReading policy seeds j), readingCalls policy (blockSeeds policy seeds j)) ∧
      Stands policy seeds (j + 1) ⟨run.state.1, run.state.2, []⟩ := by
  obtain ⟨hpolicy, hseeds, hsource⟩ := h
  intro run
  by_cases ht : policy = .time
  · subst ht
    obtain ⟨hreport, hstate⟩ := Reader.read_time hs CipherStream.restarts label p.seeds hpolicy
    refine ⟨?_, ?_⟩
    · rw [hreport, hseeds]
      rfl
    · rw [hstate]
      exact ⟨rfl, by rw [hseeds]; rfl, fun h => absurd rfl h⟩
  · have hp : p.reader.policy ≠ .time := by rwa [hpolicy]
    obtain ⟨hreport, hstate⟩ := Reader.read_once label p.seeds hp
    have hsource := hsource ht
    refine ⟨?_, ?_⟩
    · rw [hreport, hsource]
      cases policy with
      | time => exact absurd rfl ht
      | processDefault | fixed | entropy => rfl
    · rw [hstate]
      refine ⟨hpolicy, ?_, fun _ => ?_⟩
      · rw [hseeds]
        cases policy with
        | time => exact absurd rfl ht
        | processDefault | fixed | entropy => rfl
      · rw [RandomSource.drawn_succ, hsource]

/-- A reading whose announcement panics stays in its place: the clock has not been asked, and
nothing has been drawn. -/
theorem Stands.read_failing (h : Stands policy seeds j p) (label : Label) :
    let run := Reader.read .failing label (p.reader, p.seeds)
    run.report = (.panicked, []) ∧ Stands policy seeds j ⟨run.state.1, run.state.2, []⟩ := by
  intro run
  have hrun : run = ⟨.panicked, (p.reader, p.seeds), []⟩ :=
    Reader.read_failing label p.reader p.seeds
  rw [hrun]
  exact ⟨rfl, h.policy_eq, h.seeds_eq, h.source_eq⟩

/-- What is prepared for a policy in a state. -/
abbrev preparedIn (policy : SeedPolicy) (s : LazyReader × τ) : Prepared τ :=
  prepared policy s.1.value s.2

/-- A visit to a place in a block makes the calls of what is prepared, then those of its reading if
it completes, and comes to the value of the place. -/
theorem visit_report (hs : SeedSource.Answers τ) (v : Visit) {s : LazyReader × τ}
    (h : Stands v.policy seeds j (preparedIn v.policy s)) :
    (visit v s).report =
      match v.listener with
      | .recording =>
        (.value (blockReading v.policy seeds j), (preparedIn v.policy s).calls ++
          readingCalls v.policy (blockSeeds v.policy seeds j))
      | .failing => (.panicked, (preparedIn v.policy s).calls) := by
  obtain ⟨reader, world⟩ := s
  unfold visit
  rw [read_report hs]
  cases hl : v.listener with
  | failing =>
    obtain ⟨houtcome, hcalls⟩ := Prod.mk.inj (h.read_failing v.label).1
    simp only [preparedIn] at houtcome hcalls ⊢
    rw [houtcome, hcalls, List.append_nil]
  | recording =>
    obtain ⟨houtcome, hcalls⟩ := Prod.mk.inj (h.read_recording hs v.label).1
    simp only [preparedIn] at houtcome hcalls ⊢
    rw [houtcome, hcalls]

/-- After a visit the same reader is prepared for the same policy, one place further on if the visit
completed, and nothing has to be built. -/
theorem visit_stands (hs : SeedSource.Answers τ) (v : Visit) {s : LazyReader × τ}
    (h : Stands v.policy seeds j (preparedIn v.policy s)) :
    Stands v.policy seeds (if v.completes then j + 1 else j)
        (preparedIn v.policy (visit v s).state) ∧
      (preparedIn v.policy (visit v s).state).calls = [] := by
  obtain ⟨reader, world⟩ := s
  rw [preparedIn, visit, prepared_read hs]
  refine ⟨?_, rfl⟩
  cases hl : v.listener with
  | failing => simpa [Visit.completes, hl] using (h.read_failing v.label).2
  | recording => simpa [Visit.completes, hl] using (h.read_recording hs v.label).2

/-- A visit leaves a reader for its policy in the slot, also if it is abandoned. -/
theorem visit_slot (hs : SeedSource.Answers τ) (v : Visit) (s : LazyReader × τ) :
    (visit v s).state.1.value.map Reader.policy = some v.policy := by
  obtain ⟨reader, world⟩ := s
  obtain ⟨hvalue, -⟩ := read_state hs v.policy v.listener v.label reader world
  rw [visit, hvalue]
  exact congrArg some (policy_prepared v.policy reader.value world)

/-! ## One block -/

/-- A state that some visits of a block by a policy have led to, from the seeds that the block began
with. Only before the first visit is there a reader to build. -/
structure Within (policy : SeedPolicy) (seeds : τ) (done : List Visit) (s : LazyReader × τ) :
    Prop where
  stands : Stands policy seeds (done.countP Visit.completes) (preparedIn policy s)
  calls_eq : (preparedIn policy s).calls =
    if done.length = 0 then seedingCalls policy seeds else []
  slot_eq : done ≠ [] → s.1.value.map Reader.policy = some policy

/-- A block begins where no reader fits its policy. -/
theorem within_nil {s : LazyReader × τ} (h : s.1.value.map Reader.policy ≠ some policy) :
    Within policy s.2 [] s := by
  have hunfit : ∀ reader, s.1.value = some reader → reader.policy ≠ policy := by
    intro reader hreader hfits
    rw [hreader, Option.map_some, hfits] at h
    exact h rfl
  have hprepared := prepared_of_unfit hunfit s.2
  refine ⟨?_, ?_, fun h => absurd rfl h⟩
  · rw [preparedIn, hprepared]
    exact stands_new policy s.2 _
  · rw [preparedIn, hprepared]
    rfl

variable {done : List Visit} {s : LazyReader × τ}

/-- The seeds that are left within a block that has begun: nothing more is asked until the next
visit. -/
theorem Within.seeds_eq (h : Within policy seeds done s) (hdone : done ≠ []) :
    s.2 = blockSeeds policy seeds (done.countP Visit.completes) := by
  obtain ⟨reader, hvalue, hpolicy⟩ := Option.map_eq_some_iff.1 (h.slot_eq hdone)
  have hprepared := h.stands.seeds_eq
  rwa [preparedIn, hvalue, prepared_of_fits hpolicy] at hprepared

/-- The next visit of a block reports what its place says, and stays within the block. This is the
step of the induction over a block. -/
theorem Within.visit (hs : SeedSource.Answers τ) (h : Within policy seeds done s) {v : Visit}
    (hv : v.policy = policy) (rest : List Visit) :
    (visit v s).report = blockReport (done ++ v :: rest) seeds done.length v ∧
      Within policy seeds (done ++ [v]) (visit v s).state := by
  subst hv
  obtain ⟨hstands, hcalls, -⟩ := h
  refine ⟨?_, ?_⟩
  · rw [visit_report hs v hstands, hcalls]
    have htake : (done ++ v :: rest).take done.length = done := List.take_left
    cases hl : v.listener <;> simp only [blockReport, hl, htake]
  · obtain ⟨hnext, hnone⟩ := visit_stands hs v hstands
    refine ⟨?_, ?_, fun _ => visit_slot hs v s⟩
    · have hcount : (done ++ [v]).countP Visit.completes =
          if v.completes then done.countP Visit.completes + 1
          else done.countP Visit.completes := by
        rw [List.countP_append, List.countP_singleton]
        split <;> rfl
      rwa [hcount]
    · rw [hnone, if_neg (by simp)]

/-- The visits of a block report what their places say, from any place of it on. The induction is on
the visits that are left. -/
theorem Within.history (hs : SeedSource.Answers τ) (h : Within policy seeds done s)
    {rest : List Visit} (hrest : ∀ v ∈ rest, v.policy = policy) :
    (Act.history LazyReader.visit rest s).map Run.report =
        rest.mapIdx (fun i v => blockReport (done ++ rest) seeds (done.length + i) v) ∧
      Within policy seeds (done ++ rest) (Act.finalState LazyReader.visit rest s) := by
  induction rest generalizing done s with
  | nil => exact ⟨rfl, by rwa [List.append_nil]⟩
  | cons v rest ih =>
    obtain ⟨hreport, hnext⟩ := h.visit hs (hrest v List.mem_cons_self) rest
    obtain ⟨hreports, hfinal⟩ := ih hnext fun u hu => hrest u (List.mem_cons_of_mem v hu)
    rw [List.append_assoc, List.singleton_append] at hreports hfinal
    refine ⟨?_, hfinal⟩
    have hplace : ∀ i, (done ++ [v]).length + i = done.length + (i + 1) := by
      intro i
      rw [List.length_append, List.length_singleton]
      omega
    simp only [Act.history_cons, List.map_cons, hreport, hreports, List.mapIdx_cons, hplace,
      Nat.add_zero]

/-! ## Block after block -/

/-- Lists of visits that are blocks, after a visit by some policy or none: none of the lists is
empty, each has one policy, and neighbours have different ones. -/
inductive Divided : Option SeedPolicy → List (List Visit) → Prop where
  | nil {before : Option SeedPolicy} : Divided before []
  | cons {before : Option SeedPolicy} {policy : SeedPolicy} {block : List Visit}
      {later : List (List Visit)} (hne : block ≠ []) (hpolicy : ∀ v ∈ block, v.policy = policy)
      (hbefore : before ≠ some policy) (hlater : Divided (some policy) later) :
      Divided before (block :: later)

/-- In a stretch of visits by one policy all have the policy of the first one. -/
theorem policy_eq_of_isChain {v : Visit} {rest : List Visit}
    (h : (v :: rest).IsChain fun u w => decide (u.policy = w.policy) = true) :
    ∀ u ∈ v :: rest, u.policy = v.policy := by
  induction rest generalizing v with
  | nil =>
    intro u hu
    rw [List.mem_singleton.1 hu]
  | cons w rest ih =>
    obtain ⟨hvw, htail⟩ := List.isChain_cons_cons.1 h
    have hpolicy : v.policy = w.policy := of_decide_eq_true hvw
    intro u hu
    rcases List.mem_cons.1 hu with rfl | hu
    · rfl
    · rw [ih htail u hu, hpolicy]

/-- Longest stretches of visits are blocks. By induction on the stretches, each of which is asked to
differ from the one before it. -/
theorem divided_of_isChain {before : Option SeedPolicy} {bs : List (List Visit)}
    (hne : [] ∉ bs)
    (hsame : ∀ block ∈ bs, block.IsChain fun u w => decide (u.policy = w.policy) = true)
    (hchange : bs.IsChain fun a b => ∃ ha hb,
      decide ((a.getLast ha).policy = (b.head hb).policy) = false)
    (hbefore : ∀ v rest later, bs = (v :: rest) :: later → before ≠ some v.policy) :
    Divided before bs := by
  induction bs generalizing before with
  | nil => exact .nil
  | cons block later ih =>
    cases block with
    | nil => exact absurd List.mem_cons_self hne
    | cons v rest =>
      have hpolicy := policy_eq_of_isChain (hsame (v :: rest) List.mem_cons_self)
      refine .cons (List.cons_ne_nil v rest) hpolicy (hbefore v rest later rfl) ?_
      obtain ⟨hfirst, hrest⟩ := List.isChain_cons.1 hchange
      refine ih (fun h => hne (List.mem_cons_of_mem _ h))
        (fun block h => hsame block (List.mem_cons_of_mem _ h)) hrest ?_
      rintro w others later rfl heq
      -- Neighbours differ where they meet, and each of them has the same policy all over.
      obtain ⟨hlast, hhead, hdiffer⟩ := hfirst (w :: others) rfl
      have hw : v.policy = w.policy := Option.some.inj heq
      have hlastPolicy := hpolicy _ (List.getLast_mem hlast)
      exact of_decide_eq_false hdiffer (hlastPolicy.trans hw)

/-- The blocks of a list of visits are blocks, after no visit at all. -/
theorem divided_blocks (visits : List Visit) : Divided none (blocks visits) :=
  divided_of_isChain (List.nil_notMem_splitBy _ visits) (fun _ h => List.isChain_of_mem_splitBy h)
    (List.isChain_getLast_head_splitBy (fun u v => decide (u.policy = v.policy)) visits)
    fun _ _ _ _ h => nomatch h

/-- From a state that blocks can follow, the visits report what the blocks say. The induction is on
the blocks: after a block its policy is the one in the slot, which the next block does not have. -/
theorem history_divided (hs : SeedSource.Answers τ) {bs : List (List Visit)}
    {s : LazyReader × τ} (h : Divided (s.1.value.map Reader.policy) bs) :
    (Act.history visit bs.flatten s).map Run.report = blockwise bs s.2 := by
  generalize hbefore : s.1.value.map Reader.policy = before at h
  induction h generalizing s with
  | nil => rfl
  | @cons before policy block later hne hpolicy hchange _ ih =>
    have hbegin : Within policy s.2 [] s := within_nil (by rwa [hbefore])
    obtain ⟨hreports, hend⟩ := hbegin.history hs hpolicy
    rw [List.nil_append] at hreports hend
    have hleft : (Act.finalState visit block s).2 = seedsAfterBlock block s.2 := by
      rw [hend.seeds_eq hne]
      cases block with
      | nil => exact absurd rfl hne
      | cons v rest => rw [seedsAfterBlock, hpolicy v List.mem_cons_self]
    have hplaces :
        block.mapIdx (fun i v => blockReport block s.2 (([] : List Visit).length + i) v) =
          block.mapIdx (blockReport block s.2) := by
      simp only [List.length_nil, Nat.zero_add]
    rw [List.flatten_cons, Act.history_append, List.map_append, hreports, hplaces,
      ih (hend.slot_eq hne), hleft]
    rfl

/-- **Every history of a new lazy reader is the one that its blocks describe.** Whatever the
policies and labels of the visits are, wherever an announcement panics, and whatever the clock and
the entropy answer: a completed visit gets the value that its place in its block says, and every
visit makes the calls that its place says. -/
theorem lazy_history_blockwise (hs : SeedSource.Answers τ) (visits : List Visit) (seeds : τ) :
    (Act.history visit visits (LazyReader.unbuilt, seeds)).map Run.report =
      blockwise (blocks visits) seeds := by
  have hdivided := history_divided hs (s := (LazyReader.unbuilt, seeds)) (divided_blocks visits)
  rwa [blocks, List.flatten_splitBy] at hdivided

/-- An abandoned visit that begins a block, and a change from one fixed seed to another. The seed of
the abandoned visit serves the completed ones of its block. -/
theorem abandoned_visit_begins_block :
    let seeds : SystemSeeds := ⟨7, .error "no entropy"⟩
    let visits : List Visit :=
      [⟨.entropy, .failing, ⟨0, none⟩⟩, ⟨.entropy, .recording, ⟨1, none⟩⟩,
        ⟨.entropy, .recording, ⟨0, some "m"⟩⟩, ⟨.fixed 2, .recording, ⟨0, none⟩⟩,
        ⟨.fixed 3, .recording, ⟨0, none⟩⟩]
    SeedSource.Answers SystemSeeds ∧
      (Act.history visit visits (LazyReader.unbuilt, seeds)).map Run.report =
        [(.panicked, [.entropySeed, .reseed 1]),
          (.value ((CipherStream.ofSeed 1).nth 0), [.draw]),
          (.value ((CipherStream.ofSeed 1).nth 1), [.draw]),
          (.value ((CipherStream.ofSeed 2).nth 0), [.reseed 2, .draw]),
          (.value ((CipherStream.ofSeed 3).nth 0), [.reseed 3, .draw])] := by
  intro seeds visits
  refine ⟨SystemSeeds.answers, ?_⟩
  rw [lazy_history_blockwise SystemSeeds.answers visits seeds]
  rfl

end LazyReader

end

end DeviceReadings
