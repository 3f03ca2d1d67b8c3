import DeviceReadings.Config.Basic
import DeviceReadings.Json.NumberLiteral
import DeviceReadings.Json.StringLiteral

/-!
# Configurations from text

A configuration is written as an object with members `seed_policy`, `fixed_seed` and `backend` in
any order, or as a list of their values in this order. What is left out takes its default.

A policy or backend is a string, or an object whose only key is that string and whose value is
`null`. The fixed seed is `null` or a natural number of 64 bits. Members are judged in the order
of the text, and the first fault is reported; a key that is unknown or comes twice is a fault of
the object, placed where the object would have ended if it ends right there.

`Config.decode` reads a text, and `Config.ofJson` asks in addition that the configuration have a
seed policy.
-/

namespace DeviceReadings

/-! ## Names -/

/-- A part of a configuration. -/
inductive Field where
  | seedPolicy
  | fixedSeed
  | backend
  deriving DecidableEq, Repr

/-- What is called by one of the names. -/
def named? {α : Type} (names : List (String × α)) (name : List Char) : Option α :=
  (names.find? fun entry => entry.1.toList = name).map (·.2)

/-- The parts of a configuration by their names. -/
def Field.names : List (String × Field) :=
  [("seed_policy", .seedPolicy), ("fixed_seed", .fixedSeed), ("backend", .backend)]

/-- The name of a part. -/
def Field.name : Field → String
  | seedPolicy => "seed_policy"
  | fixedSeed => "fixed_seed"
  | backend => "backend"

/-- The policies by their names. -/
def PolicyKind.names : List (String × PolicyKind) :=
  [("process_default", .processDefault), ("time", .time), ("fixed", .fixed), ("entropy", .entropy)]

/-- The backends by their names. -/
def Backend.names : List (String × Backend) :=
  [("std", .std), ("fast", .fast)]

namespace Config

open Json

variable {α : Type}

/-! ## Values -/

/-- A word that is a value, from behind its first letter. -/
def foundWord (letters : List Char) (found : Found) : Decoder Found := do
  restOfWord letters
  pure found

/-- A string, from behind its opening quote. -/
def foundString : Decoder Found := do
  return Found.string (← stringLiteral)

/-- A number, or something that begins no value. -/
def foundNumber : Decoder Found := do
  return (← numberLiteral (failNext .expectedValue)).found

/-- Reads what stands in the place of another value. Of a list or an object nothing is read. -/
def foundValue : Decoder Found := fun s =>
  match s with
  | [] => failNext .expectedValue []
  | b :: rest =>
    if b = ascii 'n' then foundWord ['u', 'l', 'l'] .null rest
    else if b = ascii 't' then foundWord ['r', 'u', 'e'] (.boolean true) rest
    else if b = ascii 'f' then foundWord ['a', 'l', 's', 'e'] (.boolean false) rest
    else if b = ascii '"' then foundString rest
    else if b = ascii '[' then .ok (.sequence, s)
    else if b = ascii '{' then .ok (.map, s)
    else foundNumber s

/-- A value of another kind than the one expected. -/
def mismatch (expected : Expected) : Decoder α := do
  failHere (.invalidType (← foundValue) expected)

/-- A colon after a key. -/
def colon : Decoder Unit := do
  if (← peekToken .object) = ascii ':' then advance else failNext .expectedColon

/-- `null` and nothing else. -/
def nullValue : Decoder Unit := do
  if (← peekToken .value) = ascii 'n' then
    advance
    restOfWord ['u', 'l', 'l']
  else mismatch .nothing

/-- One of several names, from behind the opening quote. -/
def knownName (names : List (String × α)) : Decoder α := do
  let name ← stringLiteral
  match named? names name with
  | some a => pure a
  | none => failHere (.unknownVariant name (names.map (·.1)))

/-- One of several names as the only key of an object, from behind the opening brace. -/
def soleKey (names : List (String × α)) : Decoder α := do
  let b ← peekToken .object
  if b = ascii '"' then
    advance
    let a ← knownName names
    colon
    nullValue
    if (← peekToken .object) = ascii '}' then
      advance
      pure a
    else failHere .expectedValue
  else if b = ascii '}' then failNext .expectedValue
  else failNext .keyNotString

/-- One of several names, as a string or as the only key of an object. -/
def oneOfNames (names : List (String × α)) : Decoder α := do
  let b ← peekToken .value
  if b = ascii '"' then
    advance
    knownName names
  else if b = ascii '{' then
    advance
    soleKey names
  else failNext .expectedValue

/-- A number as a seed. -/
def seedOfNumber : Number → Decoder UInt64
  | .natural n => pure (UInt64.ofNat n)
  | .negative n => failHere (.invalidValue (Number.negative n).found .word)
  | .floating bits => failHere (.invalidType (.floating bits) .word)

/-- A seed, or `null` for none. -/
def seedValue : Decoder (Option UInt64) := do
  if (← peekToken .value) = ascii 'n' then
    advance
    restOfWord ['u', 'l', 'l']
    pure none
  else
    return some (← seedOfNumber (← numberLiteral (mismatch .word)))

/-! ## Objects -/

/-- What the members of an object have given so far. -/
structure Given where
  seedPolicy : Option PolicyKind
  fixedSeed : Option (Option UInt64)
  backend : Option Backend
  deriving DecidableEq, Repr

namespace Given

/-- Nothing yet. -/
def nothing : Given := ⟨none, none, none⟩

/-- Has a part been given? -/
def has (g : Given) : Field → Bool
  | .seedPolicy => g.seedPolicy.isSome
  | .fixedSeed => g.fixedSeed.isSome
  | .backend => g.backend.isSome

/-- The configuration with defaults for what was not given. -/
def config (g : Given) : Config :=
  ⟨g.seedPolicy.getD Config.default.seedPolicy, g.fixedSeed.getD Config.default.fixedSeed,
    g.backend.getD Config.default.backend⟩

/-- Reads the value of a part. -/
def read (g : Given) : Field → Decoder Given
  | .seedPolicy => do return { g with seedPolicy := some (← oneOfNames PolicyKind.names) }
  | .fixedSeed => do return { g with fixedSeed := some (← seedValue) }
  | .backend => do return { g with backend := some (← oneOfNames Backend.names) }

end Given

/-- A fault of the object that is being read. It is placed behind the closing brace if only blanks
stand before it, and otherwise behind the blanks. -/
def failObject (cause : Cause) : Decoder α := do
  skipBlanks
  if (← get).head? = some (ascii '}') then advance
  failHere cause

/-- A member, from behind the opening quote of its key. -/
def member (g : Given) : Decoder Given := do
  let name ← stringLiteral
  match named? Field.names name with
  | none => failObject (.unknownField name (Field.names.map (·.1)))
  | some field =>
    if g.has field then failObject (.duplicateField field.name)
    else
      colon
      g.read field

/-- The members after the first one, and the closing brace. Every round takes a byte, so that
`fuel` larger than the number of bytes is never used up. -/
def laterMembers : (fuel : Nat) → Given → Decoder Given
  | 0, _ => failHere (.endOfText .object)
  | fuel + 1, g => do
    let b ← peekToken .object
    if b = ascii '}' then
      advance
      pure g
    else if b = ascii ',' then
      advance
      let b ← peekToken .value
      if b = ascii '"' then
        advance
        laterMembers fuel (← member g)
      else if b = ascii '}' then failNext .trailingComma
      else failNext .keyNotString
    else failNext .expectedCommaOrBrace

/-- The members of an object and its closing brace. -/
def members : Decoder Given := do
  let b ← peekToken .object
  if b = ascii '}' then
    advance
    pure .nothing
  else if b = ascii '"' then
    advance
    let g ← member .nothing
    laterMembers ((← get).length + 1) g
  else failNext .keyNotString

/-! ## Lists -/

/-- Does an element follow? If none does, the closing bracket is read. -/
def firstElement : Decoder Bool := do
  if (← peekToken .list) = ascii ']' then
    advance
    pure false
  else pure true

/-- Does one more element follow, behind a comma? If none does, the closing bracket is read. -/
def laterElement : Decoder Bool := do
  let b ← peekToken .list
  if b = ascii ']' then
    advance
    pure false
  else if b = ascii ',' then
    advance
    if (← peekToken .value) = ascii ']' then failNext .trailingComma else pure true
  else failNext .expectedCommaOrBracket

/-- The closing bracket of a list that has all its elements. -/
def closeList : Decoder Unit := do
  let b ← peekToken .list
  if b = ascii ']' then advance
  else if b = ascii ',' then
    advance
    skipBlanks
    if (← get).head? = some (ascii ']') then failNext .trailingComma
    else failNext .trailingCharacters
  else failNext .trailingCharacters

/-- The elements of a list and its closing bracket. -/
def elements : Decoder Given := do
  if !(← firstElement) then return .nothing
  let kind ← oneOfNames PolicyKind.names
  if !(← laterElement) then return ⟨some kind, none, none⟩
  let seed ← seedValue
  if !(← laterElement) then return ⟨some kind, some seed, none⟩
  let backend ← oneOfNames Backend.names
  closeList
  return ⟨some kind, some seed, some backend⟩

/-! ## Whole texts -/

/-- A configuration, as an object or as a list. -/
def value : Decoder Config := do
  let b ← peekToken .value
  if b = ascii '{' then
    advance
    return (← members).config
  else if b = ascii '[' then
    advance
    return (← elements).config
  else mismatch .configuration

/-- A configuration with nothing but blanks around it. -/
def document : Decoder Config := do
  let c ← value
  endOfText
  return c

/-- Reads a configuration from the bytes of a text. -/
def decode (bytes : List UInt8) : Except Fault Config :=
  (document bytes).map (·.1)

/-- Reads a configuration that has a seed policy from a text. -/
def ofJson (text : List Char) : Except Failure Config :=
  match decode (Utf8.encode text) with
  | .error fault => .error (.invalidConfiguration (fault.message (Utf8.encode text)))
  | .ok c => c.validate.map fun _ => c

end Config

end DeviceReadings
