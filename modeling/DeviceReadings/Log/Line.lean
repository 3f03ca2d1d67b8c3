import DeviceReadings.Log.Event
import DeviceReadings.Text.Quoted

/-!
# Log lines

An event is written as its level, its target, its message and its fields as `name=value`. A text
in it that has line breaks makes several lines of the event.
-/

namespace DeviceReadings

/-- A field value in writing. -/
def FieldValue.written : FieldValue → List Char
  | plain text => text.toList
  | quoted text => Quoted.encode text.toList

/-- The fields of an event in writing, a blank before each. -/
def writtenFields (fields : List (String × FieldValue)) : List Char :=
  fields.flatMap fun f => ' ' :: f.1.toList ++ ['='] ++ f.2.written

/-- An event in writing. -/
def Event.written (e : Event) : List Char :=
  e.level.label.toList ++ [' '] ++ e.target.toList ++ [':', ' '] ++ e.message.toList ++
    writtenFields e.fields

/-- The lines of a text, with the line `current` (reversed) begun. -/
def splitLines (current : List Char) : List Char → List (List Char)
  | [] => [current.reverse]
  | c :: rest =>
    if c = '\n' then current.reverse :: splitLines [] rest else splitLines (c :: current) rest

/-- The lines of a text. -/
def linesOf (text : List Char) : List String :=
  (splitLines [] text).map String.ofList

/-- The lines of an event. -/
def Event.lines (e : Event) : List String :=
  linesOf e.written

end DeviceReadings
