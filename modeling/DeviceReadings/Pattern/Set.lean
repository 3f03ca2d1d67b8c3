import DeviceReadings.Pattern.Escape
import DeviceReadings.Pattern.Nesting

/-!
# Sets in a regular expression

A set stands in brackets: characters, ranges of them, classes, and other sets. A caret behind the
bracket negates it. Dashes at its beginning stand for themselves, and so does a closing bracket
that is the first of all. `&&`, `--` and `~~` are operations on what stands before and behind them.

`set?` reads a set and tells how deeply it is nested.
-/

namespace DeviceReadings

namespace Pattern

/-! ## Members -/

/-- Reads a member of a set: a character, or a class of them. -/
def member? (f : Flags) : List Char → Option (Option Char × List Char)
  | [] => none
  | '\\' :: rest =>
    match escape? f rest with
    | some (.character _ c, rest') => if f.understandsMember c then some (some c, rest') else none
    | some (.oneOf negated, rest') =>
      if f.understandsClass negated then some (none, rest') else none
    | _ => none
  | c :: rest => if f.understandsMember c then some (some c, rest) else none

/-- The character behind a dash that decides whether the dash makes a range. It is looked for behind
white space and one number sign, even in a comment; if there is none, the next one counts. -/
def behindDash? (f : Flags) (text : List Char) : Option Char :=
  if f.spaced then
    let behind := text.dropWhile Blank.isBlank
    let behind :=
      if behind.head? = some '#' then behind.tail.dropWhile Blank.isBlank else behind
    behind.head?.or text.head?
  else text.head?

/-- Reads a member of a set, or a range between two characters. A dash before the end of the set or
before another dash makes no range. -/
def range? (f : Flags) (text : List Char) : Option (List Char) :=
  match member? f text with
  | none => none
  | some (low, rest) =>
    match f.skip rest with
    | '-' :: rest' =>
      if behindDash? f rest' = some ']' || behindDash? f rest' = some '-' then some ('-' :: rest')
      else
        match low, member? f (f.skip rest') with
        | some a, some (some b, rest'') => if a.toNat ≤ b.toNat then some rest'' else none
        | _, _ => none
    | rest' => some rest'

/-- The names of the classes of ASCII characters. -/
def classNames : List String :=
  ["alnum", "alpha", "ascii", "blank", "cntrl", "digit", "graph", "lower", "print", "punct",
    "space", "upper", "word", "xdigit"]

/-- What stands behind the name of a class, a colon and a closing bracket. -/
def behindName? (text : List Char) : Option (List Char) :=
  let name := text.takeWhile (· ≠ ':')
  match text.drop name.length with
  | ':' :: ']' :: rest => if classNames.contains (String.ofList name) then some rest else none
  | _ => none

/-- Reads a class by its name between colons, from behind the bracket: whether it is negated, and
the rest behind its closing bracket. -/
def named? : List Char → Option (Bool × List Char)
  | ':' :: '^' :: rest => (behindName? rest).map (true, ·)
  | ':' :: rest => (behindName? rest).map (false, ·)
  | _ => none

/-! ## Sets -/

/-- A set that has been begun. -/
structure OpenSet where
  /-- The depth of what stands before the last operation. -/
  left : Option Nat
  /-- What stands behind it. -/
  members : Row
  /-- Have there been only dashes that stand for themselves? -/
  fresh : Bool
  deriving DecidableEq, Repr

namespace OpenSet

/-- A set of which nothing has been read. -/
def start : OpenSet := ⟨none, .empty, true⟩

/-- One more member. -/
def push (s : OpenSet) (depth : Nat) : OpenSet :=
  { s with members := s.members.push depth }

/-- The set after its beginning. -/
def begun (s : OpenSet) : OpenSet :=
  { s with fresh := false }

/-- The depth of what stands in a set. -/
def depth (s : OpenSet) : Nat :=
  match s.left with
  | none => s.members.depth
  | some left => max left s.members.depth + 1

/-- The set with an operation on what has been read. -/
def operate (s : OpenSet) : OpenSet := ⟨some s.depth, .empty, false⟩

end OpenSet

/-- Reads the caret behind an opening bracket, if there is one. -/
def caret? (f : Flags) (text : List Char) : Option (List Char) :=
  match f.skip text with
  | '^' :: rest => if f.understandsNegation then some rest else none
  | rest => some rest

/-- Reads the rest of a set, with the sets in `outer` begun around it: how deeply the outermost one
is nested, and the rest behind it. Every round takes a character. -/
def setFrom? (f : Flags) : (fuel : Nat) → (outer : List OpenSet) → OpenSet → List Char →
    Option (Nat × List Char)
  | 0, _, _, _ => none
  | fuel + 1, outer, s, text =>
    match f.skip text with
    | [] => none
    | c :: rest =>
      if s.fresh && (c = '-' || (c = ']' && s.members.count = 0)) then
        if f.understandsMember c then
          setFrom? f fuel outer { s.push 0 with fresh := c = '-' } rest
        else none
      else
        match c, rest with
        | '[', _ =>
          match named? rest with
          | some (negated, rest') =>
            if f.understandsName negated then setFrom? f fuel outer (s.begun.push 0) rest' else none
          | none => (caret? f rest).bind (setFrom? f fuel (s.begun :: outer) .start)
        | ']', _ =>
          match outer with
          | [] => some (s.depth + 1, rest)
          | around :: outer' => setFrom? f fuel outer' (around.push (s.depth + 1)) rest
        | '&', '&' :: rest' | '-', '-' :: rest' | '~', '~' :: rest' =>
          setFrom? f fuel outer s.operate rest'
        | _, _ => (range? f (c :: rest)).bind (setFrom? f fuel outer (s.begun.push 0))

/-- Reads a set from behind its opening bracket: how deeply it is nested, and the rest behind it. -/
def set? (f : Flags) (text : List Char) : Option (Nat × List Char) :=
  (caret? f text).bind (setFrom? f (text.length + 1) [] .start)

end Pattern

end DeviceReadings
