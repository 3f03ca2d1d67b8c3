import DeviceReadings.Pattern.Set
import DeviceReadings.Text.Alphanumeric

/-!
# Regular expressions

Which texts are regular expressions that can be understood (`isExpression`). An expression has
groups, with names or flags, alternatives, repetition by `?`, `*` and `+`, sets in brackets, and
escapes. It is read once, from left to right; the flags that count at a place are those set before
it in the same group or around it. Look-around and repetition by numbers are not understood, and
nothing may be nested more deeply than `deepest`.
-/

namespace DeviceReadings

namespace Pattern

/-! ## Groups -/

/-- Can a character stand in the name of a group? -/
def inName (first : Bool) (c : Char) : Bool :=
  if first then c = '_' || Alphanumeric.isLetter c
  else ['_', '.', '[', ']'].contains c || Alphanumeric.isAlphanumeric c

/-- The name of a group, which no other group may have, and the rest behind it. -/
def name? (names : List (List Char)) (text : List Char) : Option (List Char × List Char) :=
  let name := text.takeWhile (· ≠ '>')
  match name, text.drop name.length with
  | c :: cs, _ :: rest =>
    if inName true c && cs.all (inName false) && !names.contains name then some (name, rest)
    else none
  | _, _ => none

/-- What an opening parenthesis begins. -/
inductive Opening where
  /-- A group with flags of its own, which may have a name. -/
  | group (flags : Flags) (name : List (List Char))
  /-- Flags for what follows, and no group. -/
  | flags (flags : Flags)
  deriving DecidableEq, Repr

/-- Reads what stands behind an opening parenthesis. -/
def opening? (f : Flags) (names : List (List Char)) : List Char → Option (Opening × List Char)
  | '?' :: '=' :: _ | '?' :: '!' :: _ | '?' :: '<' :: '=' :: _ | '?' :: '<' :: '!' :: _ => none
  | '?' :: 'P' :: '<' :: rest | '?' :: '<' :: rest =>
    (name? names rest).map fun r => (.group f [r.1], r.2)
  | '?' :: rest =>
    match f.read? [] rest with
    | some (f', _, ':' :: rest') => some (.group f' [], rest')
    | some (f', seen, _ :: rest') => if seen = [] then none else some (.flags f', rest')
    | _ => none
  | rest => some (.group f [], rest)

/-! ## Expressions -/

/-- A group that has been begun, or the whole expression. -/
structure OpenGroup where
  flags : Flags
  /-- The alternatives before the last one. -/
  alternatives : Row
  /-- What stands in the last alternative. -/
  items : Row
  /-- Is there something that a repetition could repeat? -/
  repeatable : Bool
  deriving DecidableEq, Repr

namespace OpenGroup

/-- A group of which nothing has been read. -/
def start (f : Flags) : OpenGroup := ⟨f, .empty, .empty, false⟩

/-- One more item. -/
def push (g : OpenGroup) (depth : Nat) : OpenGroup :=
  { g with items := g.items.push depth, repeatable := true }

/-- The group with other flags from here on. They stand as an item. -/
def setFlags (g : OpenGroup) (f : Flags) : OpenGroup :=
  { g with flags := f, items := g.items.push 0, repeatable := false }

/-- The group with its last item repeated. -/
def repeatLast (g : OpenGroup) : OpenGroup :=
  { g with items := g.items.wrapLast }

/-- The group with another alternative begun. -/
def alternative (g : OpenGroup) : OpenGroup :=
  ⟨g.flags, g.alternatives.push g.items.depth, .empty, false⟩

/-- The depth of what stands in a group. -/
def depth (g : OpenGroup) : Nat := (g.alternatives.push g.items.depth).depth

end OpenGroup

/-- Is an escape understood outside of sets? -/
def Escape.isUnderstood (f : Flags) : Escape → Bool
  | character isByte c => f.understandsCharacter isByte c
  | oneOf negated => f.understandsClass negated
  | boundary => f.understandsBoundary
  | edge => true

/-- Reads the rest of an expression, with the groups in `outer` begun around it and the names given
to groups before: how deeply the whole expression is nested. Every round takes a character. -/
def depthFrom? : (fuel : Nat) → (outer : List OpenGroup) → (names : List (List Char)) → OpenGroup →
    List Char → Option Nat
  | 0, _, _, _, _ => none
  | fuel + 1, outer, names, g, text =>
    match g.flags.skip text with
    | [] => if outer = [] then some g.depth else none
    | c :: rest =>
      match c with
      | '(' =>
        match opening? g.flags names (g.flags.skip rest) with
        | none => none
        | some (.group f name, rest') =>
          depthFrom? fuel (g :: outer) (name ++ names) (.start f) rest'
        | some (.flags f, rest') => depthFrom? fuel outer names (g.setFlags f) rest'
      | ')' =>
        match outer with
        | [] => none
        | around :: outer' => depthFrom? fuel outer' names (around.push (g.depth + 1)) rest
      | '|' => depthFrom? fuel outer names g.alternative rest
      | '[' =>
        match set? g.flags rest with
        | none => none
        | some (depth, rest') => depthFrom? fuel outer names (g.push depth) rest'
      | '?' | '*' | '+' =>
        if g.repeatable then
          depthFrom? fuel outer names g.repeatLast
            (if rest.head? = some '?' then rest.tail else rest)
        else none
      | '{' => none
      | '\\' =>
        match escape? g.flags rest with
        | none => none
        | some (e, rest') =>
          if e.isUnderstood g.flags then depthFrom? fuel outer names (g.push 0) rest' else none
      | '.' =>
        if g.flags.understandsAny then depthFrom? fuel outer names (g.push 0) rest else none
      | '^' | '$' => depthFrom? fuel outer names (g.push 0) rest
      | _ =>
        if g.flags.understandsCharacter false c then depthFrom? fuel outer names (g.push 0) rest
        else none

/-- How deeply an expression is nested, if it is one. -/
def depth? (text : List Char) : Option Nat :=
  depthFrom? (text.length + 1) [] [] (.start .start) text

/-- How deeply things may be nested in an expression. -/
def deepest : Nat := 250

/-- Is a text a regular expression that can be understood? -/
def isExpression (text : List Char) : Bool :=
  (depth? text).any (· ≤ deepest)

end Pattern

end DeviceReadings
