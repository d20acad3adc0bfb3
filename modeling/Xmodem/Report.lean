import Xmodem.Benchmark
import Xmodem.Decimal.Figure
import Xmodem.Text.Json
import Xmodem.Text.Quoted

/-!
# Reports

A report lists named values in order.  It is written on one line with quoted text, or as a JSON
object with one value on each line.
-/

namespace Xmodem

/-- A value in a report. -/
inductive ReportValue where
  /-- Text. -/
  | text (value : String)
  /-- Yes or no. -/
  | flag (value : Bool)
  /-- A number. -/
  | figure (value : Decimal.Figure)

namespace ReportValue

/-- A value on one line. -/
def inline : ReportValue → String
  | text value => Text.Quoted.quote value
  | flag value => if value then "True" else "False"
  | figure value => value.text Decimal.Figure.style

/-- Numbers in JSON, with names for what is no number there. -/
def jsonStyle : Decimal.NumberStyle :=
  { Decimal.Figure.style with nan := "NaN", infinity := "Infinity" }

/-- A value in JSON. -/
def json : ReportValue → String
  | text value => Text.Json.quote value
  | flag value => if value then "true" else "false"
  | figure value => value.text jsonStyle

end ReportValue

/-- Named values in order. -/
structure Report where
  /-- The values with their names. -/
  fields : List (String × ReportValue)

namespace Report

/-- A report on one line. -/
def inline (report : Report) : String :=
  let fields := report.fields.map fun (name, value) => Text.Quoted.quote name ++ ": " ++ value.inline
  "\x7b" ++ ", ".intercalate fields ++ "\x7d"

/-- A report as a JSON object. -/
def json (report : Report) : String :=
  let fields := report.fields.map fun (name, value) =>
    "  " ++ Text.Json.quote name ++ ": " ++ value.json
  "\x7b\n" ++ ",\n".intercalate fields ++ "\n\x7d"

/-- A whole number in a report. -/
def count (value : Nat) : ReportValue :=
  .figure (.whole value)

/-- What was sent to a port. -/
def sent (port : String) (bytes : Nat) (raw : Bool) : Report where
  fields := [("role", .text "sender"), ("tty", .text port), ("bytes", count bytes),
    ("raw", .flag raw)]

/-- What was received from a port into a file. -/
def received (port : String) (bytes : Nat) (file : String) : Report where
  fields := [("role", .text "receiver"), ("tty", .text port), ("bytes", count bytes),
    ("out", .text file)]

/-- What a benchmark measured. -/
def measured (result : BenchmarkResult Float) : Report where
  fields := [("role", .text "bench"), ("bytes_transferred", count result.bytes),
    ("duration_s", .figure (.real result.duration)),
    ("throughput_kibps", .figure (.real result.throughput)),
    ("retransmits", count result.retransmits), ("timeouts", count result.timeouts),
    ("naks", count result.naks)]

end Report
end Xmodem
