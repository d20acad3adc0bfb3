/-!
# Checksums

A data frame ends either in the sum of its payload modulo 256 or in a cyclic redundancy code of
sixteen bits.  The code is a fold of single-bit shifts, most significant bit first, so that feeding
two pieces of data one after the other is feeding their concatenation.
-/

namespace Xmodem

/-- The two ways to guard a payload. -/
inductive ChecksumMode where
  /-- One byte, the sum of the payload modulo 256. -/
  | additive
  /-- Two bytes, the cyclic redundancy code with the higher byte first. -/
  | crc16
  deriving DecidableEq, Repr

namespace ChecksumMode

/-- Name of a mode. -/
def name : ChecksumMode → String
  | additive => "additive"
  | crc16 => "crc16"

/-- The mode with a given name. -/
def ofName? (name : String) : Option ChecksumMode :=
  [additive, crc16].find? fun mode => mode.name == name

/-- Number of checksum bytes at the end of a frame. -/
def checksumLength : ChecksumMode → Nat
  | additive => 1
  | crc16 => 2

theorem ofName?_name (mode : ChecksumMode) : ofName? mode.name = some mode := by
  cases mode <;> decide

end ChecksumMode

namespace Checksum

/-- Sum of all bytes modulo 256. -/
def additive (data : List UInt8) : UInt8 :=
  data.foldl (· + ·) 0

/-- One shift of the code register: the polynomial is added when the leading bit leaves. -/
def shift (polynomial register : BitVec 16) : BitVec 16 :=
  if register.msb then (register <<< 1) ^^^ polynomial else register <<< 1

/-- The register after eight shifts of a byte added at its high end. -/
def feed (polynomial register : BitVec 16) (byte : UInt8) : BitVec 16 :=
  Nat.repeat (shift polynomial) 8 (register ^^^ (byte.toBitVec.setWidth 16 <<< 8))

/-- The register after all bytes of some data. -/
def crc (polynomial initial : BitVec 16) (data : List UInt8) : BitVec 16 :=
  data.foldl (feed polynomial) initial

/-- The generator `x ^ 16 + x ^ 12 + x ^ 5 + 1` without its leading term. -/
def generator : BitVec 16 :=
  0x1021

/-- The redundancy code of a frame: generator polynomial and an empty register. -/
def crc16 (data : List UInt8) : BitVec 16 :=
  crc generator 0 data

/-- The checksum bytes of a payload. -/
def bytes : ChecksumMode → List UInt8 → List UInt8
  | .additive, payload => [additive payload]
  | .crc16, payload =>
      let code := crc16 payload
      [.ofBitVec (code.extractLsb' 8 8), .ofBitVec (code.extractLsb' 0 8)]

@[simp]
theorem crc_nil (polynomial initial : BitVec 16) : crc polynomial initial [] = initial := rfl

theorem crc_append (polynomial initial : BitVec 16) (left right : List UInt8) :
    crc polynomial initial (left ++ right) = crc polynomial (crc polynomial initial left) right :=
  List.foldl_append

@[simp]
theorem length_bytes (mode : ChecksumMode) (payload : List UInt8) :
    (bytes mode payload).length = mode.checksumLength := by
  cases mode <;> rfl

end Checksum
end Xmodem
