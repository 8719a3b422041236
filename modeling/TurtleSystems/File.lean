import TurtleSystems.Text

/-!
# Files

A file is read as a text.  The library does not touch files itself: it is
given what reading a path came to.
-/

namespace TurtleSystems.File

/-- Why a file could not be read as a text. -/
inductive Reason where
  | notFound
  | isDirectory
  | notDirectory
  | notUtf8
  | other (description : String)
  deriving DecidableEq, Repr

def Reason.message : Reason → String
  | notFound => "No such file or directory (os error 2)"
  | isDirectory => "Is a directory (os error 21)"
  | notDirectory => "Not a directory (os error 20)"
  | notUtf8 => "stream did not contain valid UTF-8"
  | other description => description

/-- A file that could not be read. -/
structure Fault where
  path : String
  reason : Reason
  deriving DecidableEq, Repr

/-- The sentence that explains why a file could not be read. -/
def Fault.message (fault : Fault) : String :=
  "File error: Failed to read file " ++ fault.path ++ ": " ++
    fault.reason.message

/-- What reading a path comes to. -/
abbrev Files := String → Except Reason Text

def read (files : Files) (path : String) : Except Fault Text :=
  match files path with
  | .ok content => .ok content
  | .error reason => .error ⟨path, reason⟩

/-- The text that the bytes of a file stand for. -/
def decode (bytes : ByteArray) : Except Reason Text :=
  match String.fromUTF8? bytes with
  | some content => .ok content.toList
  | none => .error .notUtf8

end TurtleSystems.File
