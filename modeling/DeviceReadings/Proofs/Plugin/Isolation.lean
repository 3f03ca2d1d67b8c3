import DeviceReadings.Plugin
import DeviceReadings.Proofs.Reader.Blocks

/-!
# The parts of a plugin, each on its own

A plugin is the family of its parts, one for each component (`Plugin.part`). An operation reads and
writes the part of its component alone: it is an action on that part (`Operation.action`), carried
out where the part stands (`Plugin.serve_eq`). So what is seen of the operations on one component is
what would be seen without all the others, and operations on different components may change
places. The process-wide component is one lazy reader, visited by the exported read and by the
others alike.

`plugin_components_isolated` says all of this of every history. Each operation comes with the
answers of the clock and the entropy source that it will meet.
-/

namespace DeviceReadings

/-! ## Parts -/

/-- What a component holds. -/
def Component.Holds : Component → Type
  | process => LazyReader
  | own _ => LazyReader
  | handle _ => Option (Reader CipherStream)

namespace Plugin

/-- The part of a plugin that is a component. -/
def part (p : Plugin) : (component : Component) → component.Holds
  | .process => p.process
  | .own slot => p.own slot
  | .handle slot => p.handles slot

/-- A plugin with one part replaced. -/
def put (p : Plugin) : (component : Component) → component.Holds → Plugin
  | .process, a => { p with process := a }
  | .own slot, a => { p with own := update p.own slot a }
  | .handle slot, a => { p with handles := update p.handles slot a }

/-- Where a slot has been filled stands what it was filled with. -/
theorem update_self {α : Type} (slots : Nat → α) (slot : Nat) (a : α) :
    update slots slot a slot = a :=
  if_pos rfl

/-- The other slots have what they had. -/
theorem update_of_ne {α : Type} (slots : Nat → α) {slot i : Nat} (h : i ≠ slot) (a : α) :
    update slots slot a i = slots i :=
  if_neg h

/-- A part that has been put is there. With `part_put_of_ne` this is all that is used of how a
plugin is made up. -/
@[simp] theorem part_put (p : Plugin) (component : Component) (a : component.Holds) :
    (p.put component a).part component = a := by
  cases component with
  | process => rfl
  | own slot | handle slot => exact update_self _ slot a

/-- The other parts stay. A component is told apart from another by its kind and its slot. -/
theorem part_put_of_ne (p : Plugin) {component other : Component} (h : other ≠ component)
    (a : component.Holds) : (p.put component a).part other = p.part other := by
  cases component <;> cases other
  case process.process => exact absurd rfl h
  case own.own slot i => exact update_of_ne _ (fun hi => h (congrArg Component.own hi)) a
  case handle.handle slot i =>
    exact update_of_ne _ (fun hi => h (congrArg Component.handle hi)) a
  all_goals rfl

/-- A plugin is known by its parts. -/
theorem ext_part {p q : Plugin} (h : ∀ component, p.part component = q.part component) : p = q := by
  obtain ⟨process, own, handles⟩ := p
  obtain ⟨process', own', handles'⟩ := q
  have hprocess : process = process' := h .process
  have hown : own = own' := funext fun slot => h (.own slot)
  have hhandles : handles = handles' := funext fun slot => h (.handle slot)
  rw [hprocess, hown, hhandles]

/-- A part that is replaced by itself makes no difference. -/
theorem put_part (p : Plugin) (component : Component) : p.put component (p.part component) = p := by
  refine ext_part fun other => ?_
  by_cases h : other = component
  · subst h
    exact part_put p other _
  · exact part_put_of_ne p h _

end Plugin

section

variable {τ : Type} [SeedSource τ]

/-! ## Operations as actions on one part -/

/-- What an operation does to the part that it is on. -/
def Operation.action (build : Build) :
    (operation : Operation) → Act (operation.component.Holds × τ) Answer
  | .exportedRead device model =>
    Plugin.readLazy build.policy .recording ⟨device, model.bind modelText⟩
  | .processRead policy listener label => Plugin.readLazy policy listener label
  | .ownRead _ policy listener label => Plugin.readLazy policy listener label
  | .newHandle _ code seed => Plugin.newReader code seed
  | .readHandle _ device model => Plugin.readReader ⟨device, model.bind modelText⟩
  | .freeHandle _ => fun s => ⟨.value .done, (none, s.2), []⟩

namespace Plugin

/-- Does an operation with the answers that it meets. -/
def serve (build : Build) : Operation × τ → Act Plugin Answer :=
  Act.given (perform build)

/-- An operation is done on the part that it is on. It is handed that part alone, and puts back
nothing else. -/
theorem serve_eq (build : Build) (operation : Operation) (seeds : τ) (p : Plugin) :
    serve build (operation, seeds) p =
      (operation.action build (p.part operation.component, seeds)).mapState fun t =>
        p.put operation.component t.1 := by
  cases operation <;> rfl

variable {build : Build} {request : Operation × τ} {p q : Plugin} {component : Component}

/-- An operation leaves the parts that it is not on. This is the frame rule: it follows from
`serve_eq`, and no operation is looked at. -/
theorem part_serve_of_ne (build : Build) (h : request.1.component ≠ component) :
    (serve build request p).state.part component = p.part component := by
  rw [serve_eq]
  exact part_put_of_ne p h.symm _

/-- What is seen of an operation, and what it leaves of the part that it is on, come from that part
alone. -/
theorem serve_congr (build : Build)
    (h : p.part request.1.component = q.part request.1.component) :
    (serve build request p).seen = (serve build request q).seen ∧
      (serve build request p).state.part request.1.component =
        (serve build request q).state.part request.1.component := by
  rw [serve_eq, serve_eq, h]
  exact ⟨rfl, (part_put p _ _).trans (part_put q _ _).symm⟩

/-! ## Histories, one component at a time -/

/-- What is seen of the operations on a component in a history of all. -/
def seenOn (build : Build) (component : Component) (requests : List (Operation × τ)) (p : Plugin) :
    List (Outcome Answer × List Effect) :=
  (requests.zip (Act.history (serve build) requests p)).filterMap fun entry =>
    if entry.1.1.component = component then some entry.2.seen else none

/-- The operations on a component alone. -/
def restrict (component : Component) (requests : List (Operation × τ)) : List (Operation × τ) :=
  requests.filter (·.1.component = component)

/-- An operation on the component is seen before the later ones. -/
theorem seenOn_cons_of_on (h : request.1.component = component) (rest : List (Operation × τ)) :
    seenOn build component (request :: rest) p =
      (serve build request p).seen :: seenOn build component rest (serve build request p).state :=
  List.filterMap_cons_some (if_pos h)

/-- Nothing is seen of an operation on another component. -/
theorem seenOn_cons_of_ne (h : request.1.component ≠ component) (rest : List (Operation × τ)) :
    seenOn build component (request :: rest) p =
      seenOn build component rest (serve build request p).state :=
  List.filterMap_cons_none (if_neg h)

/-- What is seen of the operations on a component breaks where the history does. The later
operations begin with the plugin that the first ones leave. -/
theorem seenOn_append (first later : List (Operation × τ)) :
    seenOn build component (first ++ later) p =
      seenOn build component first p ++
        seenOn build component later (Act.finalState (serve build) first p) := by
  rw [seenOn, Act.history_append, List.zip_append (Act.length_history _ _ _).symm,
    List.filterMap_append]
  rfl

/-- What is seen of the operations on a component is what is seen where there are no others, if it
is the same at the beginning. The induction is on the operations: those on the component keep it the
same in both histories, and those on others do not touch it. -/
theorem seenOn_eq_restrict (requests : List (Operation × τ))
    (h : p.part component = q.part component) :
    seenOn build component requests p =
      (Act.history (serve build) (restrict component requests) q).map Run.seen := by
  induction requests generalizing p q with
  | nil => rfl
  | cons request rest ih =>
    by_cases hon : request.1.component = component
    · have hrestrict : restrict component (request :: rest) = request :: restrict component rest :=
        List.filter_cons_of_pos (decide_eq_true hon)
      subst hon
      obtain ⟨hseen, hpart⟩ := serve_congr build h
      rw [seenOn_cons_of_on rfl, hrestrict, Act.history_cons, List.map_cons, hseen, ih hpart]
    · have hrestrict : restrict component (request :: rest) = restrict component rest :=
        List.filter_cons_of_neg (by simpa using hon)
      rw [seenOn_cons_of_ne hon, hrestrict]
      exact ih ((part_serve_of_ne build hon).trans h)

/-- Operations on different components may change places: each leaves the part that the other one is
on, and so they leave the same plugin. -/
theorem serve_comm {first second : Operation × τ} (h : first.1.component ≠ second.1.component) :
    (serve build second (serve build first p).state).seen = (serve build second p).seen ∧
      (serve build first (serve build second p).state).seen = (serve build first p).seen ∧
      (serve build second (serve build first p).state).state =
        (serve build first (serve build second p).state).state := by
  have hsecond := part_serve_of_ne (p := p) build h
  have hfirst := part_serve_of_ne (p := p) build h.symm
  obtain ⟨hsecondSeen, hsecondPart⟩ := serve_congr build hsecond
  obtain ⟨hfirstSeen, hfirstPart⟩ := serve_congr build hfirst
  refine ⟨hsecondSeen, hfirstSeen, ext_part fun component => ?_⟩
  by_cases hs : second.1.component = component
  · subst hs
    rw [hsecondPart, part_serve_of_ne build h]
  · rw [part_serve_of_ne build hs]
    by_cases hf : first.1.component = component
    · subst hf
      rw [hfirstPart]
    · rw [part_serve_of_ne build hf, part_serve_of_ne build hf, part_serve_of_ne build hs]

/-! ## The process-wide component -/

/-- An operation with the policy of the build spelled out: an exported read is a read from the
process-wide reader. -/
def spelledOut : Build → Operation → Operation
  | .standard, .exportedRead device model =>
    .processRead .processDefault .recording ⟨device, model.bind modelText⟩
  | .timeSeeded, .exportedRead device model =>
    .processRead .time .recording ⟨device, model.bind modelText⟩
  | _, operation => operation

/-- The visit to the process-wide reader that an operation spelled out is, if it is one. -/
def visit? : Operation → Option Visit
  | .processRead policy listener label => some ⟨policy, listener, label⟩
  | _ => none

theorem serve_spelledOut (operation : Operation) (seeds : τ) :
    serve build (spelledOut build operation, seeds) = serve build (operation, seeds) := by
  cases build <;> cases operation <;> rfl

/-- A history in which every exported read is spelled out is the same history. -/
theorem history_spelledOut (requests : List (Operation × τ)) :
    Act.history (serve build) (requests.map fun r => (spelledOut build r.1, r.2)) p =
      Act.history (serve build) requests p := by
  induction requests generalizing p with
  | nil => rfl
  | cons request rest ih =>
    rw [List.map_cons, Act.history_cons, Act.history_cons, serve_spelledOut, ih]

/-- A read from a lazy reader is a visit to it. -/
theorem readLazy_run (visit : Visit) (s : LazyReader × τ) :
    readLazy visit.policy visit.listener visit.label s =
      let run := LazyReader.visit visit s
      ⟨run.outcome.map Answer.reading, run.state, run.trace⟩ :=
  Act.bind_pure_run _ Answer.reading s

/-- An operation on the process-wide component is a visit to its reader, and shows and leaves what
the visit does. -/
theorem serve_visit {operation : Operation} {visit : Visit}
    (h : visit? (spelledOut build operation) = some visit) (seeds : τ) :
    let run := Act.given LazyReader.visit (visit, seeds) p.process
    operation.component = .process ∧
      (serve build (operation, seeds) p).seen = (run.outcome.map Answer.reading, run.trace) ∧
      (serve build (operation, seeds) p).state.process = run.state := by
  intro run
  have hrun := readLazy_run visit (p.process, seeds)
  have hon : operation.component = .process := by
    cases build <;> cases operation <;> cases h <;> rfl
  have hserve : serve build (operation, seeds) p =
      (readLazy visit.policy visit.listener visit.label (p.process, seeds)).mapState fun t =>
        { p with process := t.1 } := by
    cases build <;> cases operation <;> cases h <;> rfl
  rw [hserve, hrun]
  exact ⟨hon, rfl, rfl⟩

/-- Other operations are on other components. -/
theorem component_of_no_visit {operation : Operation}
    (h : visit? (spelledOut build operation) = none) : operation.component ≠ .process := by
  intro hon
  cases operation with
  | exportedRead | processRead => cases build <;> cases h
  | ownRead | newHandle | readHandle | freeHandle => cases hon

/-- What is seen on the process-wide component is what one lazy reader shows to the visits. The
induction is on the operations, of which those that are no visits leave the reader as it is. -/
theorem seenOn_process (requests : List (Operation × τ)) :
    seenOn build .process requests p =
      (Act.history (Act.given LazyReader.visit)
          (requests.filterMap fun r => (visit? (spelledOut build r.1)).map (·, r.2))
          p.process).map
        fun run => (run.outcome.map Answer.reading, run.trace) := by
  induction requests generalizing p with
  | nil => rfl
  | cons request rest ih =>
    obtain ⟨operation, seeds⟩ := request
    cases hv : visit? (spelledOut build operation) with
    | some visit =>
      obtain ⟨hon, hseen, hstate⟩ := serve_visit (p := p) hv seeds
      rw [seenOn_cons_of_on hon, List.filterMap_cons_some (by rw [hv]; rfl), Act.history_cons,
        List.map_cons, hseen, ih, hstate]
    | none =>
      have hon := component_of_no_visit hv
      have hpart : (serve build (operation, seeds) p).state.process = p.process := by
        show (serve build (operation, seeds) p).state.part .process = p.part .process
        exact part_serve_of_ne build hon
      rw [seenOn_cons_of_ne hon, List.filterMap_cons_none (by rw [hv]; rfl), ih, hpart]

/-! ## All components -/

/-- **The components of a plugin do not notice each other.** In every history what is seen of the
operations on one component is what is seen of them alone. An exported read is a read from the
process-wide reader by the policy of the build, and all of these are visits to one lazy reader, so
that each may drive a rebuild for the next. Two operations on different components show the same
and leave the same plugin in either order. -/
theorem plugin_components_isolated (build : Build) (requests : List (Operation × τ)) (p : Plugin) :
    (∀ component, seenOn build component requests p =
      (Act.history (serve build) (restrict component requests) p).map Run.seen) ∧
    Act.history (serve build) (requests.map fun r => (spelledOut build r.1, r.2)) p =
      Act.history (serve build) requests p ∧
    seenOn build .process requests p =
      (Act.history (Act.given LazyReader.visit)
          (requests.filterMap fun r => (visit? (spelledOut build r.1)).map (·, r.2))
          p.process).map
        (fun run => (run.outcome.map Answer.reading, run.trace)) ∧
    ∀ first second : Operation × τ, first.1.component ≠ second.1.component →
      (serve build second (serve build first p).state).seen = (serve build second p).seen ∧
      (serve build first (serve build second p).state).seen = (serve build first p).seen ∧
      (serve build second (serve build first p).state).state =
        (serve build first (serve build second p).state).state :=
  ⟨fun _ => seenOn_eq_restrict requests rfl, history_spelledOut requests, seenOn_process requests,
    fun _ _ h => serve_comm h⟩

/-- Reads from the process-wide reader and a lazy one around a handle that is not given out: the
handle shows what it would show by itself, and may be refused before the reads or after. -/
theorem refused_handle_isolated :
    let seeds : SystemSeeds := ⟨3, .error "no entropy"⟩
    let refused : Operation × SystemSeeds := (.newHandle 0 9 5, seeds)
    let read : Operation × SystemSeeds := (.exportedRead 1 none, seeds)
    let requests := [read, refused, (.ownRead 0 .time .failing ⟨1, none⟩, seeds),
      (.processRead .entropy .recording ⟨2, none⟩, seeds), (.readHandle 0 1 none, seeds)]
    read.1.component ≠ refused.1.component ∧
      seenOn .standard (.handle 0) requests fresh =
        [(.value (.handle false), [.event (.rejected (.unknownPolicyCode 9))]),
          (.value (.reading (-1)), [])] ∧
      (serve .standard refused (serve .standard read fresh).state).state =
        (serve .standard read (serve .standard refused fresh).state).state := by
  intro seeds refused read requests
  obtain ⟨hrestrict, -, -, hcomm⟩ := plugin_components_isolated .standard requests fresh
  have hparts : read.1.component ≠ refused.1.component := by decide
  exact ⟨hparts, (hrestrict (.handle 0)).trans rfl, (hcomm read refused hparts).2.2⟩

end Plugin

end

end DeviceReadings
