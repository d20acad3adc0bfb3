import Xmodem.Link.Pair

/-!
# Benchmarks

A benchmark sends a random payload over an impaired link and measures the sender.  It fails when a
session fails, when the receiver does not end, or when the payload does not arrive unchanged.
-/

namespace Xmodem

/-- The reasons for which a benchmark has no result. -/
inductive BenchmarkError where
  /-- The retry policy is refused. -/
  | policy (error : PolicyError)
  /-- Four times the wait for one byte is no quantity. -/
  | timeoutTooLarge
  /-- There is no room for the payload. -/
  | capacity (error : CapacityError)
  /-- A session failed. -/
  | transfer (failure : Failure)
  /-- The receiver did not end. -/
  | receiverStuck
  /-- Something else than the payload arrived. -/
  | payloadDiffers
  /-- The transfer rate is beyond all quantities. -/
  | rateTooLarge
  deriving DecidableEq, Repr

namespace BenchmarkError

/-- Explanation of an error; a differing payload goes without one. -/
def message : BenchmarkError → String
  | policy error => error.message
  | timeoutTooLarge => "int too large to convert to float"
  | capacity error => error.message
  | transfer failure => failure.message
  | receiverStuck => "receiver still running 10.0s after the sender finished"
  | payloadDiffers => ""
  | rateTooLarge => "integer division result too large for a float"

end BenchmarkError

/-- What a benchmark measures. -/
structure BenchmarkResult (τ : Type) where
  /-- Number of bytes sent. -/
  bytes : Nat
  /-- How long the sender ran. -/
  duration : τ
  /-- Kibibytes for each second. -/
  throughput : τ
  /-- Packets sent again. -/
  retransmits : Nat
  /-- Waits of the sender that ended in silence. -/
  timeouts : Nat
  /-- Negative acknowledgements received. -/
  naks : Nat
  deriving DecidableEq, Repr

/-- Choices for a benchmark. -/
structure Benchmark (τ : Type) where
  /-- Number of bytes to send. -/
  size : Int
  /-- Checksum asked for. -/
  mode : ChecksumMode
  /-- Share of the bytes that are lost, in both directions. -/
  lossRate : τ
  /-- Share of the remaining bytes in which one bit is inverted, in both directions. -/
  corruptRate : τ
  /-- Duration of every write, in thousandths of a second. -/
  delay : τ
  /-- Wait for one byte, in thousandths of a second. -/
  timeout : τ
  /-- How often one packet may be sent again. -/
  maxRetries : Int
  /-- Seed of the payload; the impairments have the two seeds that follow. -/
  seed : Option Int
  /-- Whether the impairments make no sense, so that the receiver ends at its first write. -/
  defective : Bool

namespace Benchmark

variable {τ γ : Type} [Quantity τ] [Generator γ]

/-- How long the receiver may go on after the sender has ended, in seconds. -/
def patience : Nat :=
  10

/-- A wait of some thousandths of a second, of which four have to be a quantity. -/
def waitOf? (thousandths : Int) : Except BenchmarkError τ :=
  match (Quantity.ofQuotient? (4 * thousandths) 1 : Option τ) with
  | some _ => .ok (Quantity.ofInt thousandths)
  | none => .error .timeoutTooLarge

/-- A duration of some thousandths of a second, and whether it makes sense: a positive one that is
beyond all quantities does not. -/
def pauseOf (thousandths : Int) : τ × Bool :=
  match (Quantity.ofQuotient? thousandths 1 : Option τ) with
  | some delay => (delay, true)
  | none => (0, thousandths < 0)

/-- Limits and timeouts.  The start is awaited for four bytes' time and at least one second, and the
line has to be quiet for a quarter of a byte's time. -/
def limits (benchmark : Benchmark τ) : PolicyLimits τ where
  maxRetries := benchmark.maxRetries
  byteTimeout := benchmark.timeout / Quantity.ofInt 1000
  handshakeTimeout :=
    let twice := benchmark.timeout + benchmark.timeout
    Quantity.greatest (Quantity.ofInt 1) ((twice + twice) / Quantity.ofInt 1000)
  maxHandshakeAttempts := 6
  purgeTimeout := benchmark.timeout / Quantity.ofInt 4000

/-- The payload, drawn by a generator of some type. -/
def payload (benchmark : Benchmark τ) (γ : Type := Random) [Generator γ] : List UInt8 :=
  Generator.bytes benchmark.size.toNat (Generator.start benchmark.seed 0 : γ)

/-- Impairment of one direction. -/
def impairment (benchmark : Benchmark τ) (direction : Nat) : Impairment τ γ where
  lossRate := benchmark.lossRate
  corruptRate := benchmark.corruptRate
  delay := benchmark.delay
  random := Generator.start (benchmark.seed.map (· + (direction : Int))) direction

/-- The link. -/
def link (benchmark : Benchmark τ) : Link τ γ where
  a := .fresh (benchmark.impairment 1) .none
  b := .fresh (benchmark.impairment 2) .none

/-- The two sessions before their first move.  The policy is checked before the size. -/
def start (benchmark : Benchmark τ) (γ : Type := Random) [Generator γ] :
    Except BenchmarkError (Pair τ γ) :=
  match benchmark.limits.check with
  | .error error => .error (.policy error)
  | .ok policy =>
      match Destination.ofCapacity? benchmark.size 0 with
      | .error error => .error (.capacity error)
      | .ok destination =>
          let setup : Receiver.Setup τ :=
            ⟨policy, benchmark.mode, some destination.capacity, false⟩
          let pair : Pair τ γ := .start (.start policy (benchmark.payload γ) 0)
            (.start setup destination 0) benchmark.link (some (Quantity.ofInt patience))
          .ok (if benchmark.defective then pair.withoutReceiver else pair)

/-- The result of a pair that is over.  A failure of the sender comes first, then a receiver that
did not end, then a failure of the receiver. -/
def result (benchmark : Benchmark τ) (pair : Pair τ γ) :
    Except BenchmarkError (BenchmarkResult τ) :=
  match pair.sender.outcome?, pair.receiver.outcome? with
  | some (.error failure), _ => .error (.transfer failure)
  | none, _ | _, none => .error .receiverStuck
  | _, some (.error failure) => .error (.transfer failure)
  | some (.ok sent), some (.ok _) =>
      if pair.receiver.destination.toList = benchmark.payload γ then
        let metrics := pair.sender.metrics
        match metrics.throughput? with
        | none => .error .rateTooLarge
        | some throughput =>
            .ok
              { bytes := sent
                duration := metrics.duration
                throughput := throughput
                retransmits := metrics.retransmits
                timeouts := metrics.timeouts
                naks := metrics.naks }
      else
        .error .payloadDiffers

end Benchmark
end Xmodem
