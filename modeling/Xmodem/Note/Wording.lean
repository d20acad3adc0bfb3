import Xmodem.Decimal.Fixed
import Xmodem.Note

/-!
# Wording of notes

One sentence for every note.  Durations and rates are given with two places.
-/

namespace Xmodem

namespace Occasion

/-- Where the byte was dropped, in words. -/
def text : Occasion → String
  | awaitingHandshake => "while awaiting handshake"
  | awaitingSender => "while awaiting sender"
  | sending phase => "while in " ++ phase.name
  | receiving phase => "while in " ++ phase.name

end Occasion

namespace RetryTrigger

/-- What happened, in words. -/
def text : RetryTrigger → String
  | timeout => "timeout"
  | nak => "NAK"

end RetryTrigger

namespace Idleness

/-- What was missed, in words. -/
def text : Idleness → String
  | noBlock => "no block"
  | partialFrame length => s!"partial frame ({length} bytes) discarded"

end Idleness

namespace Note

/-- How an early end is announced: a failure of the line goes without a reason. -/
def abortText (role : Role) (cause : AbortCause) : String :=
  match cause with
  | .lineFault _ => role.name ++ " aborted: " ++ cause.message
  | _ => role.name ++ " aborted (" ++ cause.reason.name ++ "): " ++ cause.message

/-- The sentence for a note. -/
def text : Note Float → String
  | noHandshake attempt => s!"no handshake byte yet; attempt={attempt}"
  | noSender attempt => s!"no sender yet; attempt={attempt}"
  | discarded byte occasion =>
      "discarding 0x" ++ Text.Hexadecimal.ofByte byte ++ " " ++ occasion.text
  | senderStarted length mode => s!"sender start; {length} bytes, " ++ mode.name ++ " checksum"
  | receiverStarted capacity mode =>
      s!"receiver start; capacity={capacity} bytes, " ++ mode.name ++ " checksum"
  | acknowledged number cursor => s!"block {number.toNat} acknowledged; cursor={cursor}"
  | retrying trigger outstanding retry =>
      trigger.text ++ " on " ++ outstanding.text ++ s!"; retry={retry}"
  | idle idleness periods => idleness.text ++ s!"; idle={periods}"
  | rejected error => "rejecting frame: " ++ error.message
  | duplicate number => s!"duplicate block {number.toNat}; re-acknowledging"
  | confirmingEot => "first EOT; asking for confirmation"
  | aborted role cause => abortText role cause
  | done role transferred duration retransmits timeouts =>
      role.name ++ s!" done; {transferred} bytes in " ++ Decimal.Fixed.ofFloat 2 duration ++
        s!"s, {retransmits} retransmits, {timeouts} timeouts"
  | restarting session reason =>
      s!"session {session} failed (" ++ reason.name ++ "); restarting handshake"
  | dropped line byte =>
      "[" ++ line ++ "] dropped outbound byte 0x" ++ Text.Hexadecimal.ofByte byte
  | opened port baud flowControl =>
      "opened " ++ port ++ s!" @ {baud} baud (" ++ flowControl ++ " flow control)"
  | progress direction total rate =>
      s!"progress: {total} bytes " ++ direction.name ++
        match rate with
        | some rate => " at " ++ Decimal.Fixed.ofFloat 2 rate ++ " KiB/s"
        | none => ""
  | lengthUnknown =>
      "no --expected-length given; trailing 0x1A bytes of the last block will not be written"

end Note
end Xmodem
