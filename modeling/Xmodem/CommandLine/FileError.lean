import Xmodem.Text.Quoted

/-!
# Failures of files

A file that cannot be read or written is described by the number and the text of the failure and,
while it is opened, by the name that was used.
-/

namespace Xmodem.CommandLine

/-- A failure of a file. -/
structure FileError where
  /-- Number of the failure. -/
  number : Nat
  /-- Description of the failure. -/
  description : String
  /-- Name of the file, if it could not be opened. -/
  file : Option String
  deriving DecidableEq, Repr

namespace FileError

/-- Explanation of a failure. -/
def message (error : FileError) : String :=
  let failure := s!"[Errno {error.number}] " ++ error.description
  match error.file with
  | some file => failure ++ ": " ++ Text.Quoted.quote file
  | none => failure

/-- There is nothing of this name. -/
def missing (file : String) : FileError :=
  ⟨2, "No such file or directory", file⟩

/-- A file is used as if it were a directory. -/
def notDirectory (file : String) : FileError :=
  ⟨20, "Not a directory", file⟩

/-- A directory is used as if it were a file. -/
def isDirectory (file : String) : FileError :=
  ⟨21, "Is a directory", file⟩

/-- The device is full. -/
def noSpace : FileError :=
  ⟨28, "No space left on device", none⟩

/-- The name or a part of it is too long. -/
def nameTooLong (file : String) : FileError :=
  ⟨36, "File name too long", file⟩

end FileError
end Xmodem.CommandLine
