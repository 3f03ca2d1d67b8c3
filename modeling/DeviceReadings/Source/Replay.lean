import DeviceReadings.Source.Basic

/-!
# Sources that replay what they are given

Sources for rehearsing a reader: `ReplayedReadings` gives the entries of a list in a cycle and
takes no notice of seeds, and `ReplayedSeeds` answers seed questions from two lists, of which the
last entry is repeated. An entry may be a panic.
-/

namespace DeviceReadings

/-- A source that gives the entries of a list over and over. -/
structure ReplayedReadings where
  entries : List (Outcome Int32)
  /-- How many entries have been given. -/
  given : Nat

namespace ReplayedReadings

/-- The source that starts with the first entry. -/
def ofList (entries : List (Outcome Int32)) : ReplayedReadings :=
  ⟨entries, 0⟩

/-- The entry that is due; without any entries there is nothing to give but a panic. -/
def due (s : ReplayedReadings) : Outcome Int32 :=
  (s.entries[s.given % s.entries.length]?).getD .panicked

end ReplayedReadings

instance : RandomSource ReplayedReadings where
  reseed _ s := (.value (), s)
  draw s := (s.due, { s with given := s.given + 1 })

/-- Takes the first answer of a list; the last one stays. An empty list gives the failure named. -/
def takeAnswer (otherwise : Failure) : List SeedAnswer → SeedAnswer × List SeedAnswer
  | [] => (.value (.error otherwise), [])
  | [a] => (a, [a])
  | a :: rest => (a, rest)

/-- Answers to seed questions, in the order in which they are given. -/
structure ReplayedSeeds where
  time : List SeedAnswer
  entropy : List SeedAnswer

instance : SeedSource ReplayedSeeds where
  time s :=
    let taken := takeAnswer .clockBeforeEpoch s.time
    (taken.1, { s with time := taken.2 })
  entropy s :=
    let taken := takeAnswer (.entropyUnavailable "no entropy") s.entropy
    (taken.1, { s with entropy := taken.2 })

end DeviceReadings
