import Xmodem.CommandLine.FileError

/-!
# Files of a rehearsal

A tree of files with a working directory.  A directory exists as long as a file lies below it; the
working directory, the directories above it, and the ones that every system has exist always.  A name
is followed from left to right, and what is wrong with its first part counts.
-/

namespace Xmodem.CommandLine

/-- The way to a file or a directory from the root of the tree. -/
abbrev Place :=
  List String

/-- The files of a tree. -/
structure Files where
  /-- All files. -/
  entries : List (Place × List UInt8)

namespace Files

/-- The working directory. -/
def home : Place :=
  ["tmp", "rehearsal"]

/-- The directories that every system has. -/
def systemDirectories : List Place :=
  [["bin"], ["dev"], ["etc"], ["home"], ["lib"], ["proc"], ["root"], ["run"], ["sbin"], ["sys"],
    ["usr"], ["var"]]

/-- The device that is empty and swallows what is written. -/
def nullDevice : Place :=
  ["dev", "null"]

/-- The device on which there is no space. -/
def fullDevice : Place :=
  ["dev", "full"]

/-- The files of the working directory. -/
def ofList (entries : List (Place × List UInt8)) : Files :=
  ⟨entries.map fun (place, content) => (home ++ place, content)⟩

/-- Most bytes in one part of a name. -/
def partLimit : Nat :=
  255

/-- Bytes from which on a name is too long. -/
def nameLimit : Nat :=
  4096

/-- The parts of a name. -/
def parts (name : String) : List String :=
  (name.splitOn "/").filter (· ≠ "")

/-- Content of the file at a place. -/
def content? (files : Files) (place : Place) : Option (List UInt8) :=
  if place = nullDevice then some [] else files.entries.lookup place

/-- Whether a directory is at a place. -/
def isDirectory (files : Files) (place : Place) : Bool :=
  place.isPrefixOf home || systemDirectories.contains place || files.entries.any fun (other, _) =>
    place.length < other.length && place.isPrefixOf other

/-- The place of something in a directory, if its name is not too long. -/
def child (name : String) (directory : Place) (part : String) : Except FileError Place :=
  if partLimit < part.utf8ByteSize then .error (.nameTooLong name) else .ok (directory ++ [part])

/-- Follow a part of a name from one directory to another. -/
def enter (files : Files) (name : String) (directory : Place) (part : String) :
    Except FileError Place :=
  if part = "." then .ok directory
  else if part = ".." then .ok directory.dropLast
  else
    match child name directory part with
    | .error error => .error error
    | .ok place =>
        if files.isDirectory place then .ok place
        else if (files.content? place).isSome then .error (.notDirectory name)
        else .error (.missing name)

/-- The place of a file with a given name, which may not exist.  A name with a slash at its end
means a directory, which must exist unless a file is to be written. -/
def locate (files : Files) (name : String) (writing : Bool) : Except FileError Place := do
  if name = "" then throw (.missing name)
  if nameLimit ≤ name.utf8ByteSize then throw (.nameTooLong name)
  let start := if name.startsWith "/" then [] else home
  let directory ← (parts name).dropLast.foldlM (files.enter name) start
  match (parts name).getLast? with
  | none | some "." | some ".." => throw (.isDirectory name)
  | some last =>
      if name.endsWith "/" then
        if !writing then
          let _ ← files.enter name directory last
        throw (.isDirectory name)
      let place ← child name directory last
      if files.isDirectory place then throw (.isDirectory name) else return place

/-- Read a whole file. -/
def read (files : Files) (name : String) : Except FileError (List UInt8) :=
  match files.locate name false with
  | .error error => .error error
  | .ok place =>
      match files.content? place with
      | some content => .ok content
      | none => .error (.missing name)

/-- Put a content at a place. -/
def put (files : Files) (place : Place) (content : List UInt8) : Files :=
  if (files.entries.lookup place).isSome then
    ⟨files.entries.map fun (other, old) => (other, if other = place then content else old)⟩
  else
    ⟨files.entries ++ [(place, content)]⟩

/-- Write a whole file. -/
def write (files : Files) (name : String) (content : List UInt8) : Except FileError Files :=
  match files.locate name true with
  | .error error => .error error
  | .ok place =>
      if place = nullDevice then .ok files
      else if place = fullDevice then if content.isEmpty then .ok files else .error .noSpace
      else .ok (files.put place content)

/-- The files of the working directory that are new or have a new content. -/
def changedSince (files earlier : Files) : List (Place × List UInt8) :=
  (files.entries.filter fun (place, content) =>
    home.isPrefixOf place && earlier.entries.lookup place != some content).map
      fun (place, content) => (place.drop home.length, content)

end Files
end Xmodem.CommandLine
