import Xmodem.Text.Hexadecimal

/-!
# Packets

A packet is either one of six single-byte signals or a numbered block of 128 bytes.  The first byte
on the line tells which.  A block shorter than the fixed size is filled up with padding.
-/

namespace Xmodem

/-- Number of payload bytes in every block. -/
def blockSize : Nat :=
  128

/-- The byte that fills up a short block. -/
def padding : UInt8 :=
  0x1A

/-- A message without content, sent as one byte. -/
inductive Signal where
  /-- All blocks have been sent. -/
  | endOfTransmission
  /-- The last block or end of transmission arrived. -/
  | acknowledge
  /-- The last frame was damaged. -/
  | negativeAcknowledge
  /-- The transfer is given up. -/
  | cancel
  /-- The receiver is ready and wants additive checksums. -/
  | requestAdditive
  /-- The receiver is ready and wants redundancy codes. -/
  | requestCrc
  deriving DecidableEq, Repr

namespace Signal

/-- The byte that stands for a signal. -/
def byte : Signal → UInt8
  | endOfTransmission => 0x04
  | acknowledge => 0x06
  | negativeAcknowledge => 0x15
  | cancel => 0x18
  | requestAdditive => 0x15
  | requestCrc => 0x43

/-- Name of a signal. -/
def name : Signal → String
  | endOfTransmission => "eot"
  | acknowledge => "ack"
  | negativeAcknowledge => "nak"
  | cancel => "can"
  | requestAdditive => "negotiate-checksum"
  | requestCrc => "negotiate-crc"

end Signal

/-- The byte that opens a data frame. -/
def startOfBlock : UInt8 :=
  0x01

/-- What a leading byte announces. -/
inductive PacketKind where
  /-- The rest of a data frame follows. -/
  | data
  /-- The byte is a whole packet. -/
  | control (signal : Signal)
  deriving DecidableEq, Repr

namespace PacketKind

/-- Name of a kind. -/
def name : PacketKind → String
  | data => "data"
  | control signal => signal.name

/-- All kinds of packets. -/
def all : List PacketKind :=
  [data, control .endOfTransmission, control .acknowledge, control .negativeAcknowledge,
    control .cancel, control .requestAdditive, control .requestCrc]

/-- The kind with a given name. -/
def ofName? (name : String) : Option PacketKind :=
  all.find? fun kind => kind.name == name

/-- The byte that announces a kind. -/
def leadingByte : PacketKind → UInt8
  | data => startOfBlock
  | control signal => signal.byte

/-- The kind that a byte announces.  A request for additive checksums shares its byte with the
negative acknowledgement and is read as that. -/
def ofLeadingByte? (byte : UInt8) : Option PacketKind :=
  if byte = startOfBlock then some data
  else if byte = Signal.byte .endOfTransmission then some (control .endOfTransmission)
  else if byte = Signal.byte .acknowledge then some (control .acknowledge)
  else if byte = Signal.byte .negativeAcknowledge then some (control .negativeAcknowledge)
  else if byte = Signal.byte .cancel then some (control .cancel)
  else if byte = Signal.byte .requestCrc then some (control .requestCrc)
  else none

/-- The kind announced by a number that need not be a byte; a number that announces nothing is the
error. -/
def ofHeader (value : Int) : Except Int PacketKind :=
  if 0 ≤ value ∧ value < 256 then
    match ofLeadingByte? (.ofNat value.toNat) with
    | some kind => .ok kind
    | none => .error value
  else
    .error value

/-- Explanation for a number that announces nothing. -/
def unrecognizedMessage (value : Int) : String :=
  "unrecognized leading byte 0x" ++ Text.Hexadecimal.ofInt value

theorem leadingByte_of_ofLeadingByte? {byte : UInt8} {kind : PacketKind}
    (read : ofLeadingByte? byte = some kind) : kind.leadingByte = byte := by
  unfold ofLeadingByte? at read
  repeat' split at read
  all_goals simp_all [leadingByte]
  all_goals subst read; rfl

theorem ofLeadingByte?_leadingByte {kind : PacketKind}
    (distinct : kind ≠ control .requestAdditive) :
    ofLeadingByte? kind.leadingByte = some kind := by
  match kind, distinct with
  | data, _ => rfl
  | control .endOfTransmission, _ => rfl
  | control .acknowledge, _ => rfl
  | control .negativeAcknowledge, _ => rfl
  | control .cancel, _ => rfl
  | control .requestCrc, _ => rfl
  | control .requestAdditive, distinct => exact absurd rfl distinct

end PacketKind

/-- A numbered payload of exactly one block. -/
structure Block where
  /-- Position in the transfer, modulo 256. -/
  number : UInt8
  /-- Content of the block. -/
  payload : List UInt8
  length_payload : payload.length = blockSize
  deriving DecidableEq

/-- A packet of either sort. -/
inductive Packet where
  /-- A block of data. -/
  | data (block : Block)
  /-- A signal.  It may carry a number and a payload, which are never sent. -/
  | control (signal : Signal) (number : Int) (payload : List UInt8)
  deriving DecidableEq

/-- The reasons for which no packet can be formed. -/
inductive PacketError where
  /-- More than one block of data. -/
  | chunkTooLong (length : Nat)
  /-- A data packet whose payload is not one block. -/
  | payloadLength (length : Nat)
  /-- A data packet whose number is not a byte. -/
  | numberOutOfRange (number : Int)
  /-- Data asked for as a signal. -/
  | dataIsNoSignal
  deriving DecidableEq, Repr

namespace PacketError

/-- Explanation of an error. -/
def message : PacketError → String
  | chunkTooLong length => s!"chunk larger than {blockSize} bytes: {length}"
  | payloadLength length => s!"data payload must be {blockSize} bytes, got {length}"
  | numberOutOfRange number => s!"block number out of range: {number}"
  | dataIsNoSignal => "DATA is not a control packet"

end PacketError

/-- A chunk filled up to one block. -/
def pad (chunk : List UInt8) : List UInt8 :=
  chunk ++ List.replicate (blockSize - chunk.length) padding

theorem length_pad {chunk : List UInt8} (fits : chunk.length ≤ blockSize) :
    (pad chunk).length = blockSize := by
  simp only [pad, List.length_append, List.length_replicate]
  omega

namespace Block

/-- The block that carries at most 128 bytes. -/
def ofChunk (number : UInt8) (chunk : List UInt8) (fits : chunk.length ≤ blockSize) : Block where
  number := number
  payload := pad chunk
  length_payload := length_pad fits

/-- The block that carries a chunk, when the chunk fits.  Any integer serves as number modulo
256. -/
def ofChunk? (number : Int) (chunk : List UInt8) : Except PacketError Block :=
  if fits : chunk.length ≤ blockSize then
    .ok (ofChunk (.ofInt number) chunk fits)
  else
    .error (.chunkTooLong chunk.length)

end Block

namespace Packet

/-- Kind of a packet. -/
def kind : Packet → PacketKind
  | data _ => .data
  | control signal _ _ => .control signal

/-- Number carried by a packet. -/
def number : Packet → Int
  | data block => block.number.toNat
  | control _ number _ => number

/-- Payload carried by a packet. -/
def payload : Packet → List UInt8
  | data block => block.payload
  | control _ _ payload => payload

/-- Whether a packet is a signal. -/
def isControl : Packet → Bool
  | data _ => false
  | control _ _ _ => true

/-- The bare signal of a kind. -/
def ofSignal? : PacketKind → Except PacketError Packet
  | .data => .error .dataIsNoSignal
  | .control signal => .ok (control signal 0 [])

/-- The packet with given parts.  Only data is checked, the payload before the number. -/
def ofParts? (kind : PacketKind) (number : Int) (payload : List UInt8) :
    Except PacketError Packet :=
  match kind with
  | .control signal => .ok (control signal number payload)
  | .data =>
      if whole : payload.length = blockSize then
        if 0 ≤ number ∧ number < 256 then
          .ok (data ⟨.ofInt number, payload, whole⟩)
        else
          .error (.numberOutOfRange number)
      else
        .error (.payloadLength payload.length)

end Packet
end Xmodem
