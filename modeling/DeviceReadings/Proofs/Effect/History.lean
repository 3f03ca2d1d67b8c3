import DeviceReadings.Effect.Act

/-!
# Histories

Actions that follow one another on the same state, each from where the one before it left things,
whether that one came to a value or to a panic (`Act.history`). A history is compared with a
`transcript`: what a machine reports that takes the same requests step by step.
`Act.history_map_eq_transcript` is the simulation that carries such a comparison from one step to
a whole history.
-/

namespace DeviceReadings

variable {ι S T α β : Type}

namespace Outcome

/-- The outcome of a call with its value changed. -/
def map (f : α → β) : Outcome α → Outcome β
  | value a => value (f a)
  | panicked => panicked

@[simp] theorem map_value (f : α → β) (a : α) : (value a).map f = value (f a) := rfl

@[simp] theorem map_panicked (f : α → β) : (panicked : Outcome α).map f = panicked := rfl

/-- A value that is only handed on is what it was. Histories of actions that return the value of
another one come to this form. -/
@[simp] theorem map_id_fun (o : Outcome α) : (o.map fun a => a) = o := by
  cases o <;> rfl

/-- Two changes of a value are one, and a panic passes through both. -/
theorem map_map (f : α → β) (g : β → T) (o : Outcome α) : (o.map f).map g = o.map (g ∘ f) := by
  cases o <;> rfl

/-- The value of a call, if it came to one. -/
def toList : Outcome α → List α
  | value a => [a]
  | panicked => []

end Outcome

/-! ## What is seen of a run -/

namespace Run

/-- What a run came to, and the calls that it made. -/
def report (r : Run S α) : Outcome α × List Call :=
  (r.outcome, r.calls)

/-- What a run came to, and its trace. -/
def seen (r : Run S α) : Outcome α × List Effect :=
  (r.outcome, r.trace)

/-- Where a run came to a value, what goes on from it adds its own trace. Together with
`andThen_of_panicked` this opens every `bind` once the outcome of its first part is known. -/
theorem andThen_of_value {r : Run S α} {a : α} (h : r.outcome = .value a) (k : α → Act S β) :
    r.andThen k = ⟨(k a r.state).outcome, (k a r.state).state, r.trace ++ (k a r.state).trace⟩ := by
  simp [andThen, h]

/-- Where a run panicked, nothing goes on from it: state and trace stay as the panic left them. -/
theorem andThen_of_panicked {r : Run S α} (h : r.outcome = .panicked) (k : α → Act S β) :
    r.andThen k = ⟨.panicked, r.state, r.trace⟩ := by
  simp [andThen, h]

/-- The calls of a run whose trace is in two parts. It is stated for the shape that
`andThen_of_value` leaves, where the second part is the trace of a run. -/
theorem calls_mk_append (o : Outcome α) (s : S) (t : List Effect) (r : Run T β) :
    (⟨o, s, t ++ r.trace⟩ : Run S α).calls = t.filterMap Effect.call? ++ r.calls :=
  List.filterMap_append

/-- The events of a run whose trace is in two parts, in the same shape as `calls_mk_append`. -/
theorem log_mk_append (o : Outcome α) (s : S) (t : List Effect) (r : Run T β) :
    (⟨o, s, t ++ r.trace⟩ : Run S α).log = t.filterMap Effect.event? ++ r.log :=
  List.filterMap_append

@[simp] theorem outcome_mapState (f : S → T) (r : Run S α) :
    (r.mapState f).outcome = r.outcome := rfl

@[simp] theorem state_mapState (f : S → T) (r : Run S α) : (r.mapState f).state = f r.state := rfl

@[simp] theorem calls_mapState (f : S → T) (r : Run S α) : (r.mapState f).calls = r.calls := rfl

@[simp] theorem report_mapState (f : S → T) (r : Run S α) : (r.mapState f).report = r.report := rfl

end Run

/-! ## Actions in a row -/

namespace Act

/-- The runs of the actions of some requests, one after another. A panic ends its own action
only: the next one goes on from the state that is left. -/
def history (act : ι → Act S α) : List ι → S → List (Run S α)
  | [], _ => []
  | i :: rest, s => act i s :: history act rest (act i s).state

/-- The state after the actions of some requests. -/
def finalState (act : ι → Act S α) (requests : List ι) (s : S) : S :=
  requests.foldl (fun s i => (act i s).state) s

/-- An action whose value is changed in the end runs as the action does, and only its outcome is
mapped. -/
theorem bind_pure_run (x : Act S α) (f : α → β) (s : S) :
    (do return f (← x)) s = ⟨(x s).outcome.map f, (x s).state, (x s).trace⟩ := by
  rw [bind_apply]
  cases ho : (x s).outcome with
  | panicked => rw [Run.andThen_of_panicked ho, Outcome.map_panicked]
  | value a => rw [Run.andThen_of_value ho, pure_apply, List.append_nil, Outcome.map_value]

/-- An action that is handed a second state each time and does not keep it. -/
def given (act : ι → Act (S × T) α) (request : ι × T) : Act S α :=
  fun s => (act request.1 (s, request.2)).mapState Prod.fst

@[simp] theorem history_nil (act : ι → Act S α) (s : S) : history act [] s = [] := rfl

@[simp] theorem history_cons (act : ι → Act S α) (i : ι) (rest : List ι) (s : S) :
    history act (i :: rest) s = act i s :: history act rest (act i s).state := rfl

@[simp] theorem finalState_nil (act : ι → Act S α) (s : S) : finalState act [] s = s := rfl

@[simp] theorem finalState_cons (act : ι → Act S α) (i : ι) (rest : List ι) (s : S) :
    finalState act (i :: rest) s = finalState act rest (act i s).state := rfl

/-- There is one run for each request, also behind a request at which the action panicked. -/
@[simp] theorem length_history (act : ι → Act S α) (requests : List ι) (s : S) :
    (history act requests s).length = requests.length := by
  induction requests generalizing s with
  | nil => rfl
  | cons i rest ih => simp [ih]

/-- The state after two rows of requests is that after the second, taken from where the first one
ends. -/
theorem finalState_append (act : ι → Act S α) (first later : List ι) (s : S) :
    finalState act (first ++ later) s = finalState act later (finalState act first s) :=
  List.foldl_append

/-- A history breaks where its requests do: the later requests are served from the state that the
first ones leave. Proofs about what comes behind some point of a history start with it. -/
theorem history_append (act : ι → Act S α) (first later : List ι) (s : S) :
    history act (first ++ later) s =
      history act first s ++ history act later (finalState act first s) := by
  induction first generalizing s with
  | nil => rfl
  | cons i rest ih => simp [ih]

end Act

/-! ## Machines -/

/-- What a machine reports on some requests, one after another. -/
def transcript (step : ι → T → β × T) : List ι → T → List β
  | [], _ => []
  | i :: rest, t => (step i t).1 :: transcript step rest (step i t).2

namespace Act

variable {act : ι → Act S α} {step : ι → T → β × T} {view : Run S α → β} {R : S → T → Prop}

/-- A history is the transcript of a machine that matches it step by step: from related states an
action and a step of the machine report the same and lead to related states. The relation is what an
induction over requests has to carry, and so it is chosen where this is applied. -/
theorem history_map_eq_transcript
    (hstep : ∀ i s t, R s t → view (act i s) = (step i t).1 ∧ R (act i s).state (step i t).2)
    (requests : List ι) {s : S} {t : T} (h : R s t) :
    (history act requests s).map view = transcript step requests t := by
  induction requests generalizing s t with
  | nil => rfl
  | cons i rest ih =>
    obtain ⟨hview, hnext⟩ := hstep i s t h
    simp [transcript, hview, ih hnext]

/-- Two histories show the same if their actions match step by step: from related states they show
the same and lead to related states. -/
theorem history_map_eq_history_map {act' : ι → Act T β} {γ : Type} {seen : Run S α → γ}
    {seen' : Run T β → γ}
    (hstep : ∀ i s t, R s t →
      seen (act i s) = seen' (act' i t) ∧ R (act i s).state (act' i t).state)
    (requests : List ι) {s : S} {t : T} (h : R s t) :
    (history act requests s).map seen = (history act' requests t).map seen' := by
  induction requests generalizing s t with
  | nil => rfl
  | cons i rest ih =>
    obtain ⟨hseen, hnext⟩ := hstep i s t h
    simp [hseen, ih hnext]

end Act

end DeviceReadings
