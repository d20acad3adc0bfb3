import Xmodem.Decimal.Figure
import Xmodem.Session

/-!
# Serial ports

A port is opened with a speed, a character format, and a way to pace the peer.  Only some formats
exist, so a request for others is refused before the port is asked for.
-/

namespace Xmodem

/-- Number of data bits in a character. -/
inductive CharacterWidth where
  /-- Five bits. -/
  | five
  /-- Six bits. -/
  | six
  /-- Seven bits. -/
  | seven
  /-- Eight bits. -/
  | eight
  deriving DecidableEq, Repr

namespace CharacterWidth

/-- The number of bits. -/
def bits : CharacterWidth → Nat
  | five => 5
  | six => 6
  | seven => 7
  | eight => 8

/-- All widths. -/
def all : List CharacterWidth :=
  [five, six, seven, eight]

/-- The width with a given number of bits. -/
def ofFigure? (figure : Decimal.Figure) : Option CharacterWidth :=
  all.find? fun width => figure.hasValue width.bits 1

end CharacterWidth

/-- Number of stop bits after a character. -/
inductive StopBits where
  /-- One bit. -/
  | one
  /-- One bit and a half. -/
  | oneAndHalf
  /-- Two bits. -/
  | two
  deriving DecidableEq, Repr

namespace StopBits

/-- Number of half bits. -/
def halves : StopBits → Nat
  | one => 2
  | oneAndHalf => 3
  | two => 4

/-- The number of bits, in figures. -/
def name : StopBits → String
  | one => "1"
  | oneAndHalf => "1.5"
  | two => "2"

/-- All numbers of stop bits. -/
def all : List StopBits :=
  [one, oneAndHalf, two]

/-- The stop bits with a given number. -/
def ofFigure? (figure : Decimal.Figure) : Option StopBits :=
  all.find? fun stopBits => figure.hasValue stopBits.halves 2

end StopBits

/-- How a port keeps its peer from sending too fast. -/
inductive FlowControl where
  /-- Not at all. -/
  | none
  /-- By control lines. -/
  | hardware
  /-- By control characters. -/
  | software
  deriving DecidableEq, Repr

namespace FlowControl

/-- Name of a way to pace the peer. -/
def name : FlowControl → String
  | none => "none"
  | hardware => "hardware"
  | software => "software"

/-- All ways to pace the peer. -/
def all : List FlowControl :=
  [none, hardware, software]

/-- The way with a given name. -/
def ofName? (name : String) : Option FlowControl :=
  all.find? fun control => control.name == name

theorem ofName?_name (control : FlowControl) : ofName? control.name = some control := by
  cases control <;> decide

end FlowControl

/-- How a port is opened. -/
structure SerialSettings (τ : Type) where
  /-- Speed in baud, unless it is left blank. -/
  baud : Option Int
  /-- Number of data bits. -/
  width : CharacterWidth
  /-- Number of stop bits. -/
  stopBits : StopBits
  /-- How the peer is paced. -/
  flowControl : FlowControl
  /-- Longest duration of a write. -/
  writeTimeout : τ

/-- What is asked for where a number belongs. -/
inductive RequestedNumber where
  /-- A number. -/
  | figure (value : Decimal.Figure)
  /-- Something else. -/
  | other (text : String)

namespace RequestedNumber

/-- Text of what is asked for. -/
def text : RequestedNumber → String
  | figure value => value.text Decimal.Figure.style
  | other text => text

/-- What a number stands for; nothing else stands for anything. -/
def find? {α : Type} (ofFigure? : Decimal.Figure → Option α) : RequestedNumber → Option α
  | figure value => ofFigure? value
  | other _ => none

end RequestedNumber

/-- A format that may not exist. -/
structure SerialRequest (τ : Type) where
  /-- Speed in baud. -/
  baud : Int
  /-- Number of data bits. -/
  width : RequestedNumber
  /-- Number of stop bits. -/
  stopBits : RequestedNumber
  /-- How the peer is paced. -/
  flowControl : String
  /-- Longest duration of a write. -/
  writeTimeout : τ

/-- The reasons to refuse a format. -/
inductive SettingsError where
  /-- There is no such width. -/
  | width (asked : String)
  /-- There is no such number of stop bits. -/
  | stopBits (asked : String)
  /-- There is no such way to pace the peer. -/
  | flowControl (asked : String)
  deriving DecidableEq, Repr

namespace SettingsError

/-- Explanation of an error. -/
def message : SettingsError → String
  | width asked => "unsupported character width: " ++ asked
  | stopBits asked => "unsupported stop bits: " ++ asked
  | flowControl asked => "unsupported flow control: " ++ asked

end SettingsError

namespace SerialRequest

variable {τ : Type}

/-- The common format of 115200 baud, eight data bits, and one stop bit, without pacing. -/
def standard (writeTimeout : τ) : SerialRequest τ where
  baud := 115200
  width := .figure (.whole 8)
  stopBits := .figure (.whole 1)
  flowControl := "none"
  writeTimeout := writeTimeout

/-- The settings asked for, if all of them exist.  The width is checked first and the pacing last. -/
def check (request : SerialRequest τ) : Except SettingsError (SerialSettings τ) :=
  match request.width.find? CharacterWidth.ofFigure? with
  | none => .error (.width request.width.text)
  | some width =>
      match request.stopBits.find? StopBits.ofFigure? with
      | none => .error (.stopBits request.stopBits.text)
      | some stopBits =>
          match FlowControl.ofName? request.flowControl with
          | none => .error (.flowControl request.flowControl)
          | some flowControl =>
              .ok ⟨request.baud, width, stopBits, flowControl, request.writeTimeout⟩

end SerialRequest

/-- The reasons for which a port is not opened. -/
inductive OpeningError where
  /-- Its name means nothing. -/
  | name (complaint : String)
  /-- The port itself failed. -/
  | port (complaint : String)
  deriving DecidableEq, Repr

namespace OpeningError

/-- Explanation of an error. -/
def message : OpeningError → String
  | name complaint => complaint
  | port complaint => complaint

end OpeningError
end Xmodem
