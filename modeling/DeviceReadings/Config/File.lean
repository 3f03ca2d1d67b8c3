import DeviceReadings.Config.Decode

/-!
# Configurations from files

A configuration file holds the bytes of a text. A file that cannot be read, or whose bytes are not
those of a text, is an invalid configuration, and the failure names the file.
-/

namespace DeviceReadings

/-- What stands under a path. -/
inductive FileState where
  | contents (bytes : List UInt8)
  | missing
  | directory
  /-- Something that cannot be read, and why. -/
  | unreadable (reason : String)
  deriving DecidableEq, Repr

/-- The text of a file, or why there is none. -/
def FileState.text : FileState → Except String (List Char)
  | contents bytes =>
    match Utf8.decode? bytes with
    | some text => .ok text
    | none => .error "stream did not contain valid UTF-8"
  | missing => .error "No such file or directory (os error 2)"
  | directory => .error "Is a directory (os error 21)"
  | unreadable reason => .error reason

/-- Reads a configuration from what stands under a path. -/
def Config.load (path : String) (file : FileState) : Except Failure Config :=
  match file.text with
  | .error reason => .error (.invalidConfiguration (path ++ ": " ++ reason))
  | .ok text => Config.ofJson text

end DeviceReadings
