import Xmodem.Session

/-!
# Scripted lines

A script says in advance what a line will do: which bytes arrive after which waits, and which reads
and writes fail.  Time passes only while a read waits.
-/

namespace Xmodem

/-- One thing that a scripted line does for its reader. -/
inductive ScriptItem (τ : Type) where
  /-- A byte arrives. -/
  | byte (value : UInt8)
  /-- One read waits in vain for as long as it may. -/
  | silence
  /-- Some time passes before the next item. -/
  | wait (duration : τ)
  /-- One read fails. -/
  | fault (fault : Fault)
  deriving DecidableEq, Repr

/-- A line that behaves as planned. -/
structure ScriptedLine (τ : Type) where
  /-- What happens to the coming reads. -/
  items : List (ScriptItem τ)
  /-- What every read meets after the last item; silence when absent. -/
  ending : Option Fault
  /-- The writes that fail, counted from zero. -/
  writeFaults : List (Nat × Fault)
  /-- Number of writes so far. -/
  writes : Nat

namespace ScriptedLine

variable {τ : Type} [Quantity τ]

/-- Outcome of one read. -/
structure Reading (τ : Type) where
  /-- What the reader is told. -/
  answer : Answer
  /-- When the read ends. -/
  now : τ
  /-- What is left of the script. -/
  items : List (ScriptItem τ)

/-- Read from a list of items. -/
def readItems (ending : Option Fault) (now left : τ) : List (ScriptItem τ) → Reading τ
  | [] =>
      match ending with
      | some fault => ⟨.fault fault, now, []⟩
      | none => ⟨.silence, now + left, []⟩
  | .byte value :: items => ⟨.byte value, now, items⟩
  | .silence :: items => ⟨.silence, now + left, items⟩
  | .fault fault :: items => ⟨.fault fault, now, items⟩
  | .wait duration :: items =>
      if duration ≤ left then readItems ending (now + duration) (left - duration) items
      else ⟨.silence, now + left, .wait (duration - left) :: items⟩

/-- Read one byte for at most some time. -/
def read (line : ScriptedLine τ) (now timeout : τ) : Answer × τ × ScriptedLine τ :=
  let reading := readItems line.ending now timeout line.items
  (reading.answer, reading.now, { line with items := reading.items })

/-- Write, unless the plan says that this write fails. -/
def write (line : ScriptedLine τ) : Answer × ScriptedLine τ :=
  let after := { line with writes := line.writes + 1 }
  match line.writeFaults.lookup line.writes with
  | some fault => (.fault fault, after)
  | none => (.written, after)

end ScriptedLine
end Xmodem
