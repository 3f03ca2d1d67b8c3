import DeviceReadings.Log.Event

/-!
# Actions with a trace

A reader calls on sources of readings and seeds, writes to a log, and may be cut short by a panic
of what it calls. An `Act S α` is such an activity on a state of type `S`: run from a state it
gives an `Outcome`, the state in which it leaves things, panic or not, and the `trace` of the
calls and events on the way, in order.

`Act.bind` stops at the first panic. `Run.calls` and `Run.log` read a trace for its calls and for
its events.
-/

namespace DeviceReadings

/-- What a call comes to: a value, or a panic. -/
inductive Outcome (α : Type) where
  | value (a : α)
  | panicked
  deriving DecidableEq, Repr

/-- A call on a source of seeds or of readings. -/
inductive Call where
  /-- The clock is asked for a seed. -/
  | timeSeed
  /-- The entropy source is asked for a seed. -/
  | entropySeed
  /-- The source of readings is started afresh. -/
  | reseed (seed : UInt64)
  /-- The source of readings is asked for the next one. -/
  | draw
  deriving DecidableEq, Repr

/-- One entry of a trace. -/
inductive Effect where
  | call (c : Call)
  | event (e : Event)
  deriving DecidableEq, Repr

namespace Effect

/-- The call of an entry, if it is one. -/
def call? : Effect → Option Call
  | call c => some c
  | event _ => none

/-- The event of an entry, if it is one. -/
def event? : Effect → Option Event
  | call _ => none
  | event e => some e

end Effect

/-- How an action went: what it came to, the state it left, and its trace. -/
@[ext] structure Run (S α : Type) where
  outcome : Outcome α
  state : S
  trace : List Effect

/-- An activity on a state of type `S` that comes to a value of type `α` or panics. -/
def Act (S α : Type) : Type :=
  S → Run S α

namespace Run

variable {S T α β : Type}

/-- The calls of a run, in order. -/
def calls (r : Run S α) : List Call :=
  r.trace.filterMap Effect.call?

/-- The events of a run, in order. -/
def log (r : Run S α) : List Event :=
  r.trace.filterMap Effect.event?

/-- The same run, seen as one on another state. -/
def mapState (f : S → T) (r : Run S α) : Run T α :=
  ⟨r.outcome, f r.state, r.trace⟩

/-- A run that goes on, unless it panicked, with an action on the value it came to. -/
def andThen (r : Run S α) (k : α → Act S β) : Run S β :=
  match r.outcome with
  | .value a => ⟨(k a r.state).outcome, (k a r.state).state, r.trace ++ (k a r.state).trace⟩
  | .panicked => ⟨.panicked, r.state, r.trace⟩

end Run

namespace Act

variable {S α β : Type}

/-- The action that does nothing. -/
protected def pure (a : α) : Act S α :=
  fun s => ⟨.value a, s, []⟩

/-- One action after another, with the value of the first. -/
protected def bind (x : Act S α) (k : α → Act S β) : Act S β :=
  fun s => (x s).andThen k

instance : Monad (Act S) where
  pure := Act.pure
  bind := Act.bind

/-- The action that does nothing leaves its state and an empty trace. This is how `return` at the
end of an action is run. -/
theorem pure_apply (a : α) (s : S) : (pure a : Act S α) s = ⟨.value a, s, []⟩ := rfl

/-- A `do` block is run by `Run.andThen`: what follows an action runs from the state that it left,
with the value that it came to. -/
theorem bind_apply (x : Act S α) (k : α → Act S β) (s : S) : (x >>= k) s = (x s).andThen k := rfl

/-- A call, noted in the trace whether it panics or not. -/
def perform (c : Call) (f : S → Outcome α × S) : Act S α :=
  fun s => ⟨(f s).1, (f s).2, [.call c]⟩

/-- An event, written to the log. -/
def emit (e : Event) : Act S Unit :=
  fun s => ⟨.value (), s, [.event e]⟩

/-- The action that panics at once. -/
def abort : Act S α :=
  fun s => ⟨.panicked, s, []⟩

end Act

end DeviceReadings
