import DeviceReadings.Proofs.Plugin.Isolation
import Mathlib.Data.List.DropRight

/-!
# The life cycle of a handle

What is behind a handle was decided by the last operation that asked for a new reader there or freed
the handle (`lastDecision`); the reads since then (`readsSince`) only go on with the reader. `Kept`
is this invariant, with what is seen of it: every operation keeps it, so it holds after every
history.

`handle_life_cycle` is the main statement. A read from a handle answers -1 exactly if there is no
reader behind it, for no reader of cipher streams gives a negative reading.
-/

namespace DeviceReadings

/-! ## Operations on one handle -/

namespace Operation

/-- Does an operation decide what is behind a handle, whatever was there before? -/
def decides (slot : Nat) : Operation → Bool
  | newHandle i _ _ => i = slot
  | freeHandle i => i = slot
  | _ => false

/-- The label of a read from a handle, if an operation is one. -/
def readLabel? (slot : Nat) : Operation → Option Label
  | readHandle i device model => if i = slot then some ⟨device, model.bind modelText⟩ else none
  | _ => none

/-- An operation decides what is behind a handle, reads from it, or is on another component. The
facts about one handle are proved in these three cases. -/
theorem slot_cases (slot : Nat) (operation : Operation) :
    (operation.decides slot = true ∧ operation.component = .handle slot) ∨
      (∃ device model, operation = .readHandle slot device model) ∨
      (operation.decides slot = false ∧ operation.readLabel? slot = none ∧
        operation.component ≠ .handle slot) := by
  cases operation with
  | exportedRead | processRead | ownRead => exact .inr (.inr ⟨rfl, rfl, nofun⟩)
  | newHandle i | freeHandle i =>
    by_cases h : i = slot
    · exact .inl ⟨decide_eq_true h, congrArg Component.handle h⟩
    · exact .inr (.inr ⟨decide_eq_false h, rfl, fun hi => h (Component.handle.inj hi)⟩)
  | readHandle i =>
    by_cases h : i = slot
    · subst h
      exact .inr (.inl ⟨_, _, rfl⟩)
    · exact .inr (.inr ⟨rfl, if_neg h, fun hi => h (Component.handle.inj hi)⟩)

end Operation

namespace Plugin

section

variable {τ : Type}

/-! ## Decisions, and reads since -/

/-- The last operation that decided what is behind a handle. -/
def lastDecision (slot : Nat) (done : List (Operation × τ)) : Option (Operation × τ) :=
  (done.filter (·.1.decides slot)).getLast?

/-- The reads from a handle since then, with the answers that each one met. -/
def readsSince (slot : Nat) (done : List (Operation × τ)) : List (Label × τ) :=
  (done.rtakeWhile (!·.1.decides slot)).filterMap fun r => (r.1.readLabel? slot).map (·, r.2)

/-- There is no reader behind a handle: none was asked for, the code of the last one stands for no
policy, or the handle was freed. -/
def Vacant (slot : Nat) (done : List (Operation × τ)) : Prop :=
  match lastDecision slot done with
  | none => True
  | some (.newHandle _ code seed, _) => ∃ cause, SeedPolicy.ofCode code seed = .error cause
  | some _ => True

/-- The policy of the reader that an operation puts behind a handle, with the answers that it meets,
if the operation is one that does. -/
def granted : Operation × τ → Option (SeedPolicy × τ)
  | (.newHandle _ code seed, seeds) => (SeedPolicy.ofCode code seed).toOption.map (·, seeds)
  | _ => none

/-- The policy of the reader behind a handle, with the answers that its building met, if there is a
reader. -/
def standing (slot : Nat) (done : List (Operation × τ)) : Option (SeedPolicy × τ) :=
  (lastDecision slot done).bind granted

/-- No policy stands for a handle just if it is vacant. -/
theorem standing_eq_none_iff (slot : Nat) (done : List (Operation × τ)) :
    standing slot done = none ↔ Vacant slot done := by
  unfold standing Vacant
  rcases lastDecision slot done with _ | ⟨operation, seeds⟩
  · simp
  · cases operation with
    | newHandle i code seed =>
      cases hcode : SeedPolicy.ofCode code seed <;> simp [granted, hcode, Except.toOption]
    | exportedRead | processRead | ownRead | readHandle | freeHandle => simp [granted]

variable {slot : Nat} {done : List (Operation × τ)} {request : Operation × τ}

/-- A decision makes what it grants stand, whatever stood before. It grants nothing where it refuses
or frees. -/
theorem standing_of_decides (h : request.1.decides slot = true) :
    standing slot (done ++ [request]) = granted request := by
  simp [standing, lastDecision, List.filter_append, h]

/-- What decides nothing leaves standing what stood. -/
theorem standing_of_not (h : request.1.decides slot = false) :
    standing slot (done ++ [request]) = standing slot done := by
  simp [standing, lastDecision, List.filter_append, h]

/-- A decision begins with no reads. -/
theorem readsSince_of_decides (h : request.1.decides slot = true) :
    readsSince slot (done ++ [request]) = [] := by
  rw [readsSince, List.rtakeWhile_concat_neg _ _ _ (by simp [h]), List.filterMap_nil]

/-- What decides nothing adds its read, if it is one from this handle. The two lemmas that follow
are its cases. -/
theorem readsSince_of_not (h : request.1.decides slot = false) :
    readsSince slot (done ++ [request]) =
      readsSince slot done ++ ((request.1.readLabel? slot).map (·, request.2)).toList := by
  rw [readsSince, List.rtakeWhile_concat_pos _ _ _ (by simp [h]), List.filterMap_append, readsSince]
  cases hlabel : request.1.readLabel? slot <;> simp [hlabel]

/-- A read from the handle is one more since the last decision, with the text of its model. -/
theorem readsSince_read (device : Int32) (model : Option (List UInt8)) (answers : τ) :
    readsSince slot (done ++ [(.readHandle slot device model, answers)]) =
      readsSince slot done ++ [(⟨device, model.bind modelText⟩, answers)] := by
  rw [readsSince_of_not rfl, Operation.readLabel?, if_pos rfl, Option.map_some, Option.toList_some]

/-- What is neither a decision nor a read leaves the reads as they are. -/
theorem readsSince_elsewhere (hdecides : request.1.decides slot = false)
    (hlabel : request.1.readLabel? slot = none) :
    readsSince slot (done ++ [request]) = readsSince slot done := by
  rw [readsSince_of_not hdecides, hlabel, Option.map_none, Option.toList_none, List.append_nil]

end

end Plugin

section

variable {τ : Type} [SeedSource τ]

/-! ## Readings of a cipher stream -/

/-- A reading of a cipher stream fits into 31 bits, so it is never the answer -1 for no reader. -/
theorem CipherStream.next_bounds (g : CipherStream) :
    0 ≤ g.next.1.toInt ∧ g.next.1.toInt ≤ 2147483647 := by
  have hvalue : g.next.1.toInt = g.nextWord.1.toNat / 2 := toInt_readingOfWord _
  have hword := g.nextWord.1.toNat_lt
  omega

namespace Reader

/-- A reading is one of some cipher stream, by whatever policy. Under the time policy it is the
stream that has just been started. -/
theorem read_eq_next (hs : SeedSource.Answers τ) (label : Label) (reader : Reader CipherStream)
    (seeds : τ) :
    ∃ g : CipherStream,
      (Reader.read .recording label (reader, seeds)).outcome = .value g.next.1 := by
  by_cases h : reader.policy = .time
  · obtain ⟨hreport, -⟩ := Reader.read_time hs CipherStream.restarts label seeds h
    exact ⟨_, congrArg Prod.fst hreport⟩
  · obtain ⟨hreport, -⟩ := Reader.read_once label seeds h
    exact ⟨_, congrArg Prod.fst hreport⟩

/-- A reader that is seeded once gives the readings of its stream in order, whatever answers there
would be to the questions for a seed. -/
theorem given_once {reader : Reader CipherStream} (h : reader.policy ≠ .time)
    (reads : List (Label × τ)) :
    (Act.history (Act.given (Reader.read .recording)) reads reader).map Run.outcome =
      ((List.range reads.length).map reader.source.nth).map .value := by
  rw [List.map_map]
  refine RandomSource.history_draws
    (R := fun (reader : Reader CipherStream) source =>
      reader.policy ≠ .time ∧ reader.source = source) ?_ reads ⟨h, rfl⟩
  rintro ⟨label, seeds⟩ reader _ ⟨hp, rfl⟩
  obtain ⟨hreport, hstate⟩ := Reader.read_once label seeds hp
  have hnext : (Act.given (Reader.read .recording) (label, seeds) reader).state =
      ⟨(RandomSource.draw reader.source).2, reader.policy⟩ := congrArg Prod.fst hstate
  exact ⟨congrArg Prod.fst hreport, by rw [hnext]; exact ⟨hp, rfl⟩⟩

/-- Under the time policy each reading is the first one of the clock's answer to it, whatever the
readings before it were. -/
theorem given_time (hs : SeedSource.Answers τ) {reader : Reader CipherStream}
    (h : reader.policy = .time) (reads : List (Label × τ)) :
    (Act.history (Act.given (Reader.read .recording)) reads reader).map Run.outcome =
      (reads.map fun read =>
        (CipherStream.ofSeed (seedOf (SeedSource.time read.2).1)).nth 0).map .value := by
  induction reads generalizing reader with
  | nil => rfl
  | cons read rest ih =>
    obtain ⟨label, seeds⟩ := read
    obtain ⟨hreport, hstate⟩ := Reader.read_time hs CipherStream.restarts label seeds h
    have hpolicy :
        (Act.given (Reader.read .recording) (label, seeds) reader).state.policy = .time :=
      congrArg (fun s => s.1.policy) hstate
    rw [Act.history_cons, List.map_cons, ih hpolicy]
    exact congrArg (· :: _) (congrArg Prod.fst hreport)

end Reader

namespace Plugin

variable {slot : Nat} {build : Build} {p : Plugin}

/-! ## What an operation on a handle does -/

/-- A reader as it is when it is granted. -/
def newlySeeded (policy : SeedPolicy) (seeds : τ) : Reader CipherStream :=
  ⟨CipherStream.ofSeed (policySeed policy seeds), policy⟩

/-- What is seen of a read from a handle that comes to a reading. -/
def seenReading (run : Run (Reader CipherStream) Int32) : Outcome Answer × List Effect :=
  (run.outcome.map Answer.reading, run.trace)

/-- A new reader is built for the policy of a code. The handle is given out, and the reader is all
that is left behind it. -/
theorem newReader_of_ok (hs : SeedSource.Answers τ) {code : UInt32} {seed : UInt64}
    {policy : SeedPolicy} (h : SeedPolicy.ofCode code seed = .ok policy)
    (held : Option (Reader CipherStream)) (seeds : τ) :
    let built := Reader.build policy (CipherStream.ofSeed 1) seeds
    newReader code seed (held, seeds) =
      ⟨.value (.handle true), (some (newlySeeded policy seeds), built.state), built.trace⟩ := by
  obtain ⟨houtcome, -, -⟩ :=
    LazyReader.build_cipherStream hs policy (CipherStream.ofSeed defaultSeed) seeds
  simp only [newReader, h, houtcome]
  rfl

/-- A decision leaves behind its handle the reader that it grants, or none. What was there before is
dropped. -/
theorem handles_serve_of_decides (hs : SeedSource.Answers τ) {request : Operation × τ}
    (h : request.1.decides slot = true) :
    (serve build request p).state.handles slot =
      (granted request).map fun grant => newlySeeded grant.1 grant.2 := by
  obtain ⟨operation, seeds⟩ := request
  cases operation with
  | exportedRead | processRead | ownRead | readHandle => cases h
  | freeHandle i =>
    obtain rfl : i = slot := of_decide_eq_true h
    exact update_self _ i _
  | newHandle i code seed =>
    obtain rfl : i = slot := of_decide_eq_true h
    refine (update_self _ i _).trans ?_
    cases hcode : SeedPolicy.ofCode code seed with
    | error cause => simp [newReader, granted, hcode, Except.toOption]
    | ok policy =>
      rw [newReader_of_ok hs hcode]
      simp [granted, hcode, Except.toOption]

/-- A reader that is granted has been built, and what is seen is its building. -/
theorem seen_serve_of_granted (hs : SeedSource.Answers τ) {request : Operation × τ}
    {policy : SeedPolicy} {seeds : τ} (h : granted request = some (policy, seeds)) :
    (serve build request p).seen =
      (.value (.handle true), (Reader.build policy (CipherStream.ofSeed 1) seeds).trace) := by
  obtain ⟨operation, answers⟩ := request
  cases operation with
  | exportedRead | processRead | ownRead | readHandle | freeHandle => cases h
  | newHandle i code seed =>
    cases hcode : SeedPolicy.ofCode code seed with
    | error cause => simp [granted, hcode, Except.toOption] at h
    | ok policy' =>
      obtain ⟨rfl, rfl⟩ : policy' = policy ∧ answers = seeds := by
        simpa [granted, hcode, Except.toOption] using h
      rw [serve_eq]
      exact congrArg Run.seen (newReader_of_ok hs hcode (p.handles i) answers)

/-- Where there is no reader, to put none there changes nothing. -/
theorem put_none (h : p.handles slot = none) : p.put (.handle slot) none = p :=
  h ▸ put_part p (.handle slot)

/-- Where there is no reader a read answers -1 and does nothing: no event is logged and no call is
made. -/
theorem serve_read_of_none (h : p.handles slot = none) (device : Int32)
    (model : Option (List UInt8)) (seeds : τ) :
    serve build (.readHandle slot device model, seeds) p =
      ⟨.value (.reading (-1)), p, []⟩ := by
  have hread : readReader ⟨device, model.bind modelText⟩ (p.handles slot, seeds) =
      ⟨.value (.reading (-1)), (none, seeds), []⟩ := by rw [h]; rfl
  rw [serve_eq]
  refine (congrArg (Run.mapState _) hread).trans ?_
  exact congrArg (Run.mk _ · _) (put_none h)

/-- Where there is none, to free the handle does nothing. -/
theorem serve_free_of_none (h : p.handles slot = none) (seeds : τ) :
    serve build (.freeHandle slot, seeds) p = ⟨.value .done, p, []⟩ := by
  rw [serve_eq]
  exact congrArg (Run.mk _ · _) (put_none h)

/-- Where there is a reader, what is read from is this reader. -/
theorem readReader_some (label : Label) (reader : Reader CipherStream) (seeds : τ) :
    readReader label (some reader, seeds) =
      let run := Reader.read .recording label (reader, seeds)
      ⟨run.outcome.map Answer.reading, (some run.state.1, run.state.2), run.trace⟩ :=
  congrArg (Run.mapState fun t : Reader CipherStream × τ => (some t.1, t.2))
    (Act.bind_pure_run (Reader.read .recording label) Answer.reading (reader, seeds))

/-- A read from a handle is a read from the reader behind it, labelled with the text of the
model. -/
theorem serve_read_of_some (build : Build) {reader : Reader CipherStream}
    (h : p.handles slot = some reader) (device : Int32) (model : Option (List UInt8)) (seeds : τ) :
    let run := Act.given (Reader.read .recording) (⟨device, model.bind modelText⟩, seeds) reader
    (serve build (.readHandle slot device model, seeds) p).seen = seenReading run ∧
      (serve build (.readHandle slot device model, seeds) p).state.handles slot =
        some run.state := by
  intro run
  have hserve : serve build (.readHandle slot device model, seeds) p =
      (readReader ⟨device, model.bind modelText⟩ (p.handles slot, seeds)).mapState fun t =>
        p.put (.handle slot) t.1 := rfl
  rw [hserve, h, readReader_some]
  exact ⟨rfl, part_put p (.handle slot) _⟩

/-- Where there is a reader, a read gives a reading of 31 bits, since it never panics. -/
theorem serve_read_bounds (hs : SeedSource.Answers τ) (build : Build)
    {reader : Reader CipherStream} (h : p.handles slot = some reader) (device : Int32)
    (model : Option (List UInt8)) (seeds : τ) :
    ∃ value : Int32,
      (serve build (.readHandle slot device model, seeds) p).outcome = .value (.reading value) ∧
        0 ≤ value.toInt ∧ value.toInt ≤ 2147483647 := by
  obtain ⟨hseen, -⟩ := serve_read_of_some build h device model seeds
  obtain ⟨g, hg⟩ := Reader.read_eq_next hs ⟨device, model.bind modelText⟩ reader seeds
  have hreading := congrArg (Outcome.map Answer.reading) hg
  exact ⟨_, (congrArg Prod.fst hseen).trans hreading, g.next_bounds⟩

/-! ## Any history -/

/-- What is seen of a reader behind a handle from its granting on, over some reads. -/
def tenancy (policy : SeedPolicy) (seeds : τ) (reads : List (Label × τ)) :
    List (Outcome Answer × List Effect) :=
  (.value (.handle true), (Reader.build policy (CipherStream.ofSeed 1) seeds).trace) ::
    (Act.history (Act.given (Reader.read .recording)) reads (newlySeeded policy seeds)).map
      seenReading

/-- One read more shows one thing more, by the reader as the reads before it left it. The step
`Kept.read` is this for what is shown. -/
theorem tenancy_concat (policy : SeedPolicy) (seeds : τ) (reads : List (Label × τ))
    (read : Label × τ) :
    tenancy policy seeds (reads ++ [read]) =
      tenancy policy seeds reads ++
        [seenReading (Act.given (Reader.read .recording) read
          (Act.finalState (Act.given (Reader.read .recording)) reads
            (newlySeeded policy seeds)))] := by
  rw [tenancy, Act.history_append, List.map_append]
  rfl

/-- After some operations a handle has the reader that its last decision granted, as the reads since
left it, and what is seen on the handle ends with what this reader shows. -/
structure Kept (build : Build) (slot : Nat) (first : Plugin) (done : List (Operation × τ)) :
    Prop where
  behind : (Act.finalState (serve build) done first).handles slot =
    (standing slot done).map fun grant =>
      Act.finalState (Act.given (Reader.read .recording)) (readsSince slot done)
        (newlySeeded grant.1 grant.2)
  shown : ∀ policy seeds, standing slot done = some (policy, seeds) →
    ∃ earlier, seenOn build (.handle slot) done first =
      earlier ++ tenancy policy seeds (readsSince slot done)

namespace Kept

variable {first : Plugin} {done : List (Operation × τ)} {request : Operation × τ}

/-- After a decision whatever was behind the handle is gone, and there are no reads yet. -/
theorem decision (hs : SeedSource.Answers τ) (hdecides : request.1.decides slot = true)
    (hon : request.1.component = .handle slot) : Kept build slot first (done ++ [request]) := by
  have hstanding : standing slot (done ++ [request]) = granted request :=
    standing_of_decides hdecides
  have hreads : readsSince slot (done ++ [request]) = [] := readsSince_of_decides hdecides
  constructor
  · rw [Act.finalState_append, hstanding, hreads]
    exact handles_serve_of_decides hs hdecides
  · intro policy seeds hgranted
    rw [hstanding] at hgranted
    refine ⟨seenOn build (.handle slot) done first, ?_⟩
    rw [seenOn_append, seenOn_cons_of_on hon, seen_serve_of_granted hs hgranted, hreads]
    rfl

/-- A read is one more from the same reader, or from none. What is behind the handle goes on from
where the reads before left it. -/
theorem read (h : Kept build slot first done) (device : Int32) (model : Option (List UInt8))
    (answers : τ) : Kept build slot first (done ++ [(.readHandle slot device model, answers)]) := by
  obtain ⟨hbehind, hshown⟩ := h
  have hon : (Operation.readHandle slot device model).component = .handle slot := rfl
  have hstanding : standing slot (done ++ [(.readHandle slot device model, answers)]) =
      standing slot done := standing_of_not rfl
  cases hgrant : standing slot done with
  | none =>
    rw [hgrant] at hstanding hbehind
    constructor
    · rw [Act.finalState_append, hstanding, Act.finalState_cons, serve_read_of_none hbehind]
      exact hbehind
    · intro policy seeds hsome
      rw [hstanding] at hsome
      cases hsome
  | some grant =>
    obtain ⟨policy, seeds⟩ := grant
    rw [hgrant] at hstanding hbehind
    obtain ⟨hseen, hstate⟩ := serve_read_of_some build hbehind device model answers
    constructor
    · rw [Act.finalState_append, hstanding, readsSince_read, Option.map_some, Act.finalState_append]
      exact hstate
    · intro policy' seeds' hsome
      rw [hstanding] at hsome
      cases hsome
      obtain ⟨earlier, hearlier⟩ := hshown policy seeds hgrant
      refine ⟨earlier, ?_⟩
      rw [seenOn_append, seenOn_cons_of_on hon, hseen, hearlier, readsSince_read, tenancy_concat,
        List.append_assoc]
      rfl

/-- An operation elsewhere is none for the handle: it changes nothing behind it, and nothing is seen
of it there. -/
theorem elsewhere (h : Kept build slot first done) (hdecides : request.1.decides slot = false)
    (hlabel : request.1.readLabel? slot = none) (hne : request.1.component ≠ .handle slot) :
    Kept build slot first (done ++ [request]) := by
  obtain ⟨hbehind, hshown⟩ := h
  have hstanding : standing slot (done ++ [request]) = standing slot done :=
    standing_of_not hdecides
  have hreads : readsSince slot (done ++ [request]) = readsSince slot done :=
    readsSince_elsewhere hdecides hlabel
  constructor
  · rw [Act.finalState_append, hstanding, hreads, ← hbehind]
    exact part_serve_of_ne build hne
  · intro policy seeds hsome
    rw [hstanding] at hsome
    obtain ⟨earlier, hearlier⟩ := hshown policy seeds hsome
    refine ⟨earlier, ?_⟩
    rw [seenOn_append, seenOn_cons_of_ne hne, hearlier, hreads]
    exact List.append_nil _

/-- Every operation keeps it: the three cases are the three kinds of operations for a handle. -/
theorem serve (hs : SeedSource.Answers τ) (h : Kept build slot first done)
    (request : Operation × τ) : Kept build slot first (done ++ [request]) := by
  obtain ⟨operation, answers⟩ := request
  rcases operation.slot_cases slot with
    ⟨hdecides, hon⟩ | ⟨device, model, rfl⟩ | ⟨hdecides, hlabel, hne⟩
  · exact decision hs hdecides hon
  · exact h.read device model answers
  · exact h.elsewhere hdecides hlabel hne

/-- So it holds after every history that begins with no reader behind the handle, by induction on
the operations from the last one on. -/
theorem always (build : Build) (hs : SeedSource.Answers τ) (hfirst : first.handles slot = none)
    (done : List (Operation × τ)) : Kept build slot first done := by
  induction done using List.reverseRecOn with
  | nil => exact ⟨hfirst, nofun⟩
  | append_singleton done request ih => exact ih.serve hs request

end Kept

/-- The readings of a handle that was granted for a code and a seed, to some reads. -/
def readingsByCode (code : UInt32) (seed : UInt64) (seeds : τ) (reads : List (Label × τ)) :
    List Int32 :=
  let row := fun seed => (List.range reads.length).map (CipherStream.ofSeed seed).nth
  match code.toNat with
  | 0 => row 1
  | 1 => reads.map fun read =>
    (CipherStream.ofSeed (seedOf (SeedSource.time read.2).1)).nth 0
  | 2 => row seed
  | _ => row (seedOf (SeedSource.entropy seeds).1)

/-- A code that stands for a policy is one of four. -/
theorem ofCode_eq_ok {code : UInt32} {seed : UInt64} {policy : SeedPolicy}
    (h : SeedPolicy.ofCode code seed = .ok policy) :
    (code.toNat = 0 ∧ policy = .processDefault) ∨ (code.toNat = 1 ∧ policy = .time) ∨
      (code.toNat = 2 ∧ policy = .fixed seed) ∨ (code.toNat = 3 ∧ policy = .entropy) := by
  unfold SeedPolicy.ofCode at h
  split at h <;> simp_all

/-- The readings of a new reader are those by its code. -/
theorem outcomes_eq_readingsByCode (hs : SeedSource.Answers τ) {code : UInt32} {seed : UInt64}
    {policy : SeedPolicy} (h : SeedPolicy.ofCode code seed = .ok policy) (seeds : τ)
    (reads : List (Label × τ)) :
    (Act.history (Act.given (Reader.read .recording)) reads (newlySeeded policy seeds)).map
        Run.outcome = (readingsByCode code seed seeds reads).map .value := by
  rcases ofCode_eq_ok h with ⟨hcode, rfl⟩ | ⟨hcode, rfl⟩ | ⟨hcode, rfl⟩ | ⟨hcode, rfl⟩
  · rw [readingsByCode, hcode]
    exact Reader.given_once (by simp [newlySeeded]) reads
  · rw [readingsByCode, hcode]
    exact Reader.given_time hs rfl reads
  · rw [readingsByCode, hcode]
    exact Reader.given_once (by simp [newlySeeded]) reads
  · rw [readingsByCode, hcode]
    exact Reader.given_once (by simp [newlySeeded]) reads

/-- **The life cycle of a handle, over every history.** Begin with no reader behind a handle and do
any operations, on the handle and elsewhere. There is no reader behind the handle exactly if none
was ever asked for, the last one was refused, or the handle was freed since. A read answers -1
exactly then, and does nothing then; to free the handle does nothing either. Otherwise a read gives
a reading of 31 bits. Where the last decision granted a reader, what is seen on the handle ends with
its building and then its readings from the first one on, and these are the ones of the code, the
seed and the answers. -/
theorem handle_life_cycle (hs : SeedSource.Answers τ) (build : Build) {slot : Nat}
    {first : Plugin} (hfirst : first.handles slot = none) (done : List (Operation × τ)) :
    let p := Act.finalState (serve build) done first
    (p.handles slot = none ↔ Vacant slot done) ∧
    (∀ (device : Int32) (model : Option (List UInt8)) (seeds : τ),
      let next := serve build (.readHandle slot device model, seeds) p
      (next.outcome = .value (.reading (-1)) ↔ p.handles slot = none) ∧
      (p.handles slot = none → next.state = p ∧ next.trace = []) ∧
      (p.handles slot ≠ none → ∃ value : Int32, next.outcome = .value (.reading value) ∧
        0 ≤ value.toInt ∧ value.toInt ≤ 2147483647)) ∧
    (p.handles slot = none → ∀ seeds : τ,
      serve build (.freeHandle slot, seeds) p = ⟨.value .done, p, []⟩) ∧
    ∀ (code : UInt32) (seed : UInt64) (seeds : τ) (policy : SeedPolicy),
      lastDecision slot done = some (.newHandle slot code seed, seeds) →
      SeedPolicy.ofCode code seed = .ok policy →
        let built := Reader.build policy (CipherStream.ofSeed 1) seeds
        ∃ reader earlier, built.outcome = .value reader ∧
          let runs := Act.history (Act.given (Reader.read .recording)) (readsSince slot done) reader
          seenOn build (.handle slot) done first =
            earlier ++ (.value (.handle true), built.trace) ::
              runs.map (fun run => (run.outcome.map Answer.reading, run.trace)) ∧
          runs.map Run.outcome =
            (readingsByCode code seed seeds (readsSince slot done)).map .value := by
  intro p
  obtain ⟨hbehind, hshown⟩ := Kept.always build hs hfirst done
  refine ⟨?_, fun device model seeds => ?_, fun hnone => serve_free_of_none hnone, ?_⟩
  · rw [hbehind, Option.map_eq_none_iff]
    exact standing_eq_none_iff slot done
  · cases hp : p.handles slot with
    | none =>
      rw [serve_read_of_none hp]
      exact ⟨iff_of_true rfl rfl, fun _ => ⟨rfl, rfl⟩, fun h => absurd rfl h⟩
    | some reader =>
      obtain ⟨value, houtcome, hlow, hhigh⟩ := serve_read_bounds hs build hp device model seeds
      -- A reading is not negative, and so it is told apart from the answer -1.
      refine ⟨iff_of_false ?_ nofun, nofun, fun _ => ⟨value, houtcome, hlow, hhigh⟩⟩
      rw [houtcome]
      rintro ⟨⟩
      exact absurd hlow (by decide)
  · intro code seed seeds policy hlast hcode built
    obtain ⟨houtcome, -, -⟩ :=
      LazyReader.build_cipherStream hs policy (CipherStream.ofSeed 1) seeds
    have hstanding : standing slot done = some (policy, seeds) := by
      rw [standing, hlast]
      simp [granted, hcode, Except.toOption]
    obtain ⟨earlier, hearlier⟩ := hshown policy seeds hstanding
    exact ⟨newlySeeded policy seeds, earlier, houtcome, hearlier,
      outcomes_eq_readingsByCode hs hcode seeds _⟩

/-- A read after a refusal and reads after a grant, with a read elsewhere among them: the first one
answers -1, and the others get the first values of the seed. -/
theorem reads_after_refusal_and_grant :
    let seeds : SystemSeeds := ⟨-1, .error "no entropy"⟩
    let read : Operation × SystemSeeds := (.readHandle 0 1 none, seeds)
    let refused : List (Operation × SystemSeeds) := [(.newHandle 0 9 5, seeds)]
    let granted : List (Operation × SystemSeeds) := [(.newHandle 0 2 5, seeds), read]
    let done := refused ++ read :: granted ++ [(.exportedRead 1 none, seeds), read]
    SeedSource.Answers SystemSeeds ∧ fresh.handles 0 = none ∧
      (serve .standard read (Act.finalState (serve .standard) refused fresh)).outcome =
        .value (.reading (-1)) ∧
      ∃ earlier, (seenOn .standard (.handle 0) done fresh).map Prod.fst =
        earlier ++ [.value (.handle true), .value (.reading ((CipherStream.ofSeed 5).nth 0)),
          .value (.reading ((CipherStream.ofSeed 5).nth 1))] := by
  intro seeds read refused granted done
  obtain ⟨hvacant, hread, -, -⟩ :=
    handle_life_cycle SystemSeeds.answers .standard (rfl : fresh.handles 0 = none) refused
  have hnone : (Act.finalState (serve .standard) refused fresh).handles 0 = none :=
    hvacant.2 ⟨_, rfl⟩
  obtain ⟨-, -, -, hgranted⟩ :=
    handle_life_cycle SystemSeeds.answers .standard (rfl : fresh.handles 0 = none) done
  obtain ⟨reader, earlier, -, hseen, hreadings⟩ := hgranted 2 5 seeds (.fixed 5) rfl rfl
  have hanswers := congrArg (List.map (Outcome.map Answer.reading)) hreadings
  rw [List.map_map] at hanswers
  refine ⟨SystemSeeds.answers, rfl, (hread 1 none seeds).1.2 hnone, earlier.map Prod.fst, ?_⟩
  rw [hseen, List.map_append, List.map_cons, List.map_map]
  exact congrArg (fun rest => earlier.map Prod.fst ++ .value (.handle true) :: rest) hanswers

end Plugin

end

end DeviceReadings
