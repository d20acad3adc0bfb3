import Xmodem.Note
import Xmodem.Quantity

/-!
# Progress reports

A reporter turns running totals into notes.  The rate belongs to the time since the previous report
and is left out when no time passed.
-/

namespace Xmodem

/-- What a reporter remembers of its last report. -/
structure ProgressReport (τ : Type) where
  /-- When the last report was made, if one was. -/
  lastInstant : Option τ
  /-- Total of the last report. -/
  lastTotal : Int
  deriving DecidableEq, Repr

namespace ProgressReport

variable {τ : Type} [Quantity τ]

/-- No report so far. -/
def fresh : ProgressReport τ where
  lastInstant := none
  lastTotal := 0

/-- Kibibytes for each second since the last report, if there was one and time passed; nothing when
the kibibytes are beyond all quantities. -/
def rate? (report : ProgressReport τ) (now : τ) (total : Int) : Option (Option τ) :=
  match report.lastInstant with
  | none => some none
  | some last =>
      if last < now then
        (Quantity.ofQuotient? (total - report.lastTotal) 1024).map fun kibibytes =>
          some (kibibytes / (now - last))
      else
        some none

/-- Report a total; nothing when the rate is beyond all quantities. -/
def report? (report : ProgressReport τ) (direction : Direction) (now : τ) (total : Int) :
    Option (ProgressReport τ × Note τ) :=
  (report.rate? now total).map fun rate => (⟨some now, total⟩, .progress direction total rate)

/-- The notes about totals that are reported at given instants; nothing when a rate is beyond all
quantities. -/
def series? (report : ProgressReport τ) : List (τ × Direction × Int) → Option (List (Note τ))
  | [] => some []
  | (now, direction, total) :: totals =>
      match report.report? direction now total with
      | none => none
      | some (report, note) => (report.series? totals).map (note :: ·)

end ProgressReport
end Xmodem
