/-!
# Nesting

How deeply things are nested of which only this is known: the depth of a row of things from the
depths of its members (`Row.depth`), with the row growing at its end.
-/

namespace DeviceReadings

namespace Pattern

/-- Things that stand side by side, by how deeply each is nested. -/
structure Row where
  /-- How many there are. -/
  count : Nat
  /-- The depth of the last one. -/
  last : Nat
  /-- The depth of the deepest one before the last. -/
  before : Nat
  deriving DecidableEq, Repr

namespace Row

/-- No things. -/
def empty : Row := ⟨0, 0, 0⟩

/-- One more thing at the end. -/
def push (r : Row) (depth : Nat) : Row :=
  ⟨r.count + 1, depth, max r.before r.last⟩

/-- The last thing inside of another one. -/
def wrapLast (r : Row) : Row :=
  { r with last := r.last + 1 }

/-- The depth of a row. A row of one thing is that thing. -/
def depth (r : Row) : Nat :=
  if r.count ≤ 1 then r.last else max r.before r.last + 1

end Row

end Pattern

end DeviceReadings
