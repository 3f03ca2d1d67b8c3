import DeviceReadings.Proofs.Effect.History
import DeviceReadings.Reader.Lazy
import Mathlib.Data.List.Forall2

/-!
# Labels play no part in a reading

The label of a reading is written to the log and has no other use. Two runs are alike if they come
to the same, leave the same, make the same calls and log the same but for the labels (`Run.Alike`).
Being alike goes through whatever actions are made of, and so readings that differ in their labels
alone are alike, however the reader is held.
-/

namespace DeviceReadings

variable {ι S T σ τ α β : Type}

/-! ## Runs that are alike -/

/-- An event without the label of a reading. -/
def Event.unlabelled : Event → Event
  | .read _ _ => .read 0 none
  | e => e

/-- Two runs come to the same, leave the same and make the same calls, and their logs are the same,
event by event, but for the labels of readings. -/
structure Run.Alike (r r' : Run S α) : Prop where
  outcome : r.outcome = r'.outcome
  state : r.state = r'.state
  calls : r.calls = r'.calls
  log : r.log.map Event.unlabelled = r'.log.map Event.unlabelled

namespace Run.Alike

variable {r r' r'' : Run S α} {k k' : α → Act S β}

/-- Every run goes like itself. -/
theorem refl (r : Run S α) : r.Alike r :=
  ⟨rfl, rfl, rfl, rfl⟩

/-- To go alike goes both ways. -/
theorem symm (h : r.Alike r') : r'.Alike r :=
  ⟨h.outcome.symm, h.state.symm, h.calls.symm, h.log.symm⟩

/-- Runs that go alike one after the other all do. -/
theorem trans (h : r.Alike r') (h' : r'.Alike r'') : r.Alike r'' :=
  ⟨h.outcome.trans h'.outcome, h.state.trans h'.state, h.calls.trans h'.calls, h.log.trans h'.log⟩

/-- What goes on alike from runs that are alike. Both come to the same value, so the same goes on
from it. -/
theorem andThen (h : r.Alike r') (hk : ∀ a s, (k a s).Alike (k' a s)) :
    (r.andThen k).Alike (r'.andThen k') := by
  cases ho : r.outcome with
  | panicked =>
    rw [Run.andThen_of_panicked ho, Run.andThen_of_panicked (h.outcome ▸ ho)]
    exact ⟨rfl, h.state, h.calls, h.log⟩
  | value a =>
    rw [Run.andThen_of_value ho, Run.andThen_of_value (h.outcome ▸ ho), ← h.state]
    have hnext := hk a r.state
    refine ⟨hnext.outcome, hnext.state, ?_, ?_⟩
    · rw [Run.calls_mk_append, Run.calls_mk_append, hnext.calls]
      exact congrArg (· ++ _) h.calls
    · rw [Run.log_mk_append, Run.log_mk_append, List.map_append, List.map_append, hnext.log]
      exact congrArg (· ++ _) h.log

/-- Runs that go alike do so after any change of the state that is left. -/
theorem mapState (h : r.Alike r') (f : S → T) : (r.mapState f).Alike (r'.mapState f) :=
  ⟨h.outcome, congrArg f h.state, h.calls, h.log⟩

end Run.Alike

/-- Two actions go alike from every state. -/
def Act.Alike (x y : Act S α) : Prop :=
  ∀ s, (x s).Alike (y s)

namespace Act.Alike

variable {x y : Act S α} {k l : α → Act S β}

/-- Every action goes like itself. -/
theorem refl (x : Act S α) : Act.Alike x x :=
  fun s => .refl (x s)

/-- Actions in a row go alike if each of them does. -/
theorem bind (h : Act.Alike x y) (hk : ∀ a, Act.Alike (k a) (l a)) :
    Act.Alike (x >>= k) (y >>= l) :=
  fun s => (h s).andThen hk

/-- Actions that go alike do so when the same is made of their values. -/
theorem map (h : Act.Alike x y) (f : α → β) :
    Act.Alike (do return f (← x)) (do return f (← y)) :=
  h.bind fun a => .refl (pure (f a))

/-- Actions that go alike do so under a lock. -/
theorem hold {x y : Act (S × τ) α} (h : Act.Alike x y) : Act.Alike (Lock.hold x) (Lock.hold y) := by
  intro s
  have hrun := h (s.1.value, s.2)
  have hstate := hrun.mapState fun t =>
    ((⟨t.1, s.1.poisoned || Lock.isPanic (x (s.1.value, s.2)).outcome⟩ : Lock S), t.2)
  refine hstate.trans ?_
  rw [hrun.outcome]
  exact .refl _

end Act.Alike

/-- **If every request is served as one without its label is,** then requests that are the same
without their labels are served alike, one by one, whatever the state that they begin with. -/
theorem Act.history_alike {act : ι → Act S α} {unlabelled : ι → ι}
    (hact : ∀ i, Act.Alike (act i) (act (unlabelled i))) {requests requests' : List ι}
    (h : requests.map unlabelled = requests'.map unlabelled) (s : S) :
    List.Forall₂ Run.Alike (history act requests s) (history act requests' s) := by
  induction requests generalizing requests' s with
  | nil =>
    obtain rfl := List.map_eq_nil_iff.1 h.symm
    exact .nil
  | cons i rest ih =>
    cases requests' with
    | nil => cases h
    | cons j rest' =>
      obtain ⟨hij, hrest⟩ := List.cons.inj h
      have hrun : (act i s).Alike (act j s) := (hact i s).trans (hij ▸ (hact j s).symm)
      rw [history_cons, history_cons, ← hrun.state]
      exact .cons hrun (ih hrest _)

/-- Of runs that are alike one by one, the whole logs are the same but for the labels. -/
theorem Act.logs_unlabelled {runs runs' : List (Run S α)} (h : List.Forall₂ Run.Alike runs runs') :
    (runs.flatMap Run.log).map Event.unlabelled =
      (runs'.flatMap Run.log).map Event.unlabelled := by
  induction h with
  | nil => rfl
  | cons hrun _ ih =>
    rw [List.flatMap_cons, List.flatMap_cons, List.map_append, List.map_append, hrun.log, ih]

/-! ## Readings -/

section Readings

variable (policy : SeedPolicy) (listener : Listener) (label label' : Label)

/-- An announcement shows its label, and goes alike for all labels otherwise. That holds too where
it panics. -/
theorem announce_alike :
    Act.Alike (announce listener label : Act (σ × τ) Unit) (announce listener label') := by
  cases listener with
  | recording => exact fun s => ⟨rfl, rfl, rfl, rfl⟩
  | failing => exact .refl _

variable [RandomSource σ] [SeedSource τ]

/-- **A reading of a source goes alike for all labels.** The label goes into the announcement
alone. -/
theorem takeReading_alike :
    Act.Alike (takeReading policy listener label : Act (σ × τ) Int32)
      (takeReading policy listener label') :=
  (announce_alike listener label label').bind fun _ => .refl _

/-- A reading from a reader goes alike for all labels. -/
theorem Reader.read_alike :
    Act.Alike (Reader.read listener label : Act (Reader σ × τ) Int32)
      (Reader.read listener label') :=
  fun s => (takeReading_alike s.1.policy listener label label' (s.1.source, s.2)).mapState _

/-- A reading from a shared reader goes alike for all labels. -/
theorem SharedReader.read_alike :
    Act.Alike (SharedReader.read listener label : Act (SharedReader σ × τ) Int32)
      (SharedReader.read listener label') :=
  (Reader.read_alike listener label label').hold

omit [RandomSource σ] in

/-- A reading from a lazy reader goes alike for all labels, whether or not a reader is built for
it. -/
theorem LazyReader.read_alike :
    Act.Alike (LazyReader.read policy listener label : Act (LazyReader × τ) Int32)
      (LazyReader.read policy listener label') :=
  Act.Alike.hold <| (Act.Alike.refl (LazyReader.prepare policy)).bind fun reader s =>
    (Reader.read_alike listener label label' (reader, s.2)).mapState _

end Readings

end DeviceReadings
