import DeviceReadings.Log.Event

/-!
# Log filters

Which events are written down. A filter is a list of directives. A directive lets through the
events in its scope up to a level: all events, or those whose target begins with a text, those that
carry a field of a name, or both.

The directive with the closest scope decides on an event (`Filter.deciding?`): the one with the
longest target, among these one that names a field, and the one whose field has the later name. Of
two directives with the same scope the later one decides. An event in no scope is not written.
-/

namespace DeviceReadings

/-- The lightest level that is let through; `none` lets nothing through. -/
abbrev Threshold : Type := Option Level

/-- Does a threshold let a level through? -/
def Threshold.admits (t : Threshold) (level : Level) : Bool :=
  match t with
  | none => false
  | some lightest => level.rank ≤ lightest.rank

/-- What a directive speaks of. -/
inductive Scope where
  /-- The events whose target begins with a text and that carry a field of a name, where these are
  given. -/
  | events (target field : Option (List Char))
  /-- Stretches of time that events may lie in. This program has none of these. -/
  | spans
  deriving DecidableEq, Repr

namespace Scope

/-- Does a scope hold an event? -/
def holds (s : Scope) (e : Event) : Bool :=
  match s with
  | events target field =>
    (target.all fun text => text.isPrefixOf e.target.toList) &&
      field.all fun name => e.fieldNames.any fun n => n.toList = name
  | spans => false

/-- Is a text before another one in the order of dictionaries, or the same? Characters are ordered
by their code points. -/
def notAfter : List Char → List Char → Bool
  | [], _ => true
  | _ :: _, [] => false
  | a :: as, b :: bs => a.toNat < b.toNat || (a = b && notAfter as bs)

/-- Is a name not after another one, where no name at all comes first? -/
def fieldNotAfter : Option (List Char) → Option (List Char) → Bool
  | none, _ => true
  | some _, none => false
  | some a, some b => notAfter a b

/-- How long the target of a scope is; a scope without a target comes before all others. -/
def targetLength : Option (List Char) → Nat
  | none => 0
  | some text => text.length + 1

/-- Is the second of two scopes that hold an event as close as the first one, or closer? -/
def asClose : Scope → Scope → Bool
  | events target field, events target' field' =>
    targetLength target < targetLength target' ||
      (targetLength target = targetLength target' && fieldNotAfter field field')
  | _, _ => false

end Scope

/-- One directive of a filter. -/
structure Directive where
  scope : Scope
  threshold : Threshold
  deriving DecidableEq, Repr

namespace Filter

/-- Of two directives the one that speaks more closely of an event; the later one, if neither
does. -/
def closer (e : Event) (best : Option Directive) (d : Directive) : Option Directive :=
  if d.scope.holds e then
    match best with
    | none => some d
    | some b => if b.scope.asClose d.scope then some d else some b
  else best

/-- The directive that decides on an event. -/
def deciding? (filter : List Directive) (e : Event) : Option Directive :=
  filter.foldl (closer e) none

/-- Is an event let through? -/
def admits (filter : List Directive) (e : Event) : Bool :=
  match deciding? filter e with
  | none => false
  | some d => d.threshold.admits e.level

end Filter

end DeviceReadings
