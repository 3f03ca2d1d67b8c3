import DeviceReadings.Config.File

/-!
# Trees of files

What stands under a path in a tree of files, for rehearsing a run of the command: `FileTree.lookUp`
goes along a path as an operating system does, name by name, from the root or from the directory
that the run is in. `.` stays where it is, `..` goes up, and whatever is gone through must be a
directory, also if nothing but a slash comes behind it.
-/

namespace DeviceReadings

/-- A name in a path. -/
abbrev PathName : Type := List UInt8

/-- The files of a system, each with the names that lead to it from the root. -/
structure FileTree where
  files : List (List PathName × FileState)
  /-- The directory that the run is in. -/
  here : List PathName

namespace FileTree

/-- The byte of a slash. -/
def slash : UInt8 := 0x2F

/-- The byte of a point. -/
def point : UInt8 := 0x2E

/-- The names of a path, which may be empty, with the name `current` (reversed) begun. -/
def namesFrom (current : PathName) : List UInt8 → List PathName
  | [] => [current.reverse]
  | b :: rest =>
    if b = slash then current.reverse :: namesFrom [] rest else namesFrom (b :: current) rest

/-- The names of a path that say something. -/
def names (path : List UInt8) : List PathName :=
  (namesFrom [] path).filter fun name => name ≠ [] && name ≠ [point]

/-- What stands at a place. Where something lies below, there is a directory. -/
def at? (tree : FileTree) (place : List PathName) : FileState :=
  match tree.files.find? (·.1 = place) with
  | some (_, state) => state
  | none =>
    if place = [] || (tree.here :: tree.files.map (·.1)).any (place.isPrefixOf ·) then .directory
    else .missing

/-- What stands at the end of a path of names from a place. -/
def walk (tree : FileTree) (place : List PathName) : List PathName → FileState
  | [] => tree.at? place
  | name :: rest =>
    match tree.at? place with
    | .directory =>
      if name = [] ∨ name = [point] then walk tree place rest
      else if name = [point, point] then walk tree place.dropLast rest
      else if 255 < name.length then .unreadable "File name too long (os error 36)"
      else walk tree (place ++ [name]) rest
    | .missing => .missing
    | _ => .unreadable "Not a directory (os error 20)"

/-- What stands under a path. -/
def lookUp (tree : FileTree) (path : List UInt8) : FileState :=
  if 4096 ≤ path.length then .unreadable "File name too long (os error 36)"
  else walk tree (if path.head? = some slash then [] else tree.here) (namesFrom [] path)

end FileTree

end DeviceReadings
