import Xmodem.Frame
import Xmodem.Link.Alteration

/-!
# Fates of packets

A disturbance is told packet by packet: what befalls one write after the other before a packet
finally gets through and is acknowledged.
-/

namespace Xmodem

/-- What befalls a write of the sender. -/
inductive Fate where
  /-- It arrives, and the answer to it arrives too. -/
  | arrives
  /-- It is lost as a whole. -/
  | lost
  /-- Behind the first byte, other bytes arrive in its place; the answer may be lost. -/
  | damaged (bytes : List UInt8) (answered : Bool)
  /-- It arrives, and the answer to it is lost. -/
  | unanswered
  deriving DecidableEq, Repr

namespace Fate

/-- What becomes of the write. -/
def onPacket : Fate → List UInt8 → List UInt8
  | arrives, bytes | unanswered, bytes => bytes
  | lost, _ => []
  | damaged bytes _, _ => startOfBlock :: bytes

/-- What becomes of the answers to the write, of which there is none or one. -/
def onAnswer : Fate → List (List UInt8 → List UInt8)
  | arrives | damaged _ true => [id]
  | damaged _ false | unanswered => [fun _ => []]
  | lost => []

/-- Whether a write that befalls this fate has failed and is not accepted by a receiver. -/
def Fails (mode : ChecksumMode) : Fate → Prop
  | arrives => False
  | lost | unanswered => True
  | damaged bytes _ =>
      bytes.length + 1 = Frame.length mode ∧
        ∃ error, Frame.decode mode (startOfBlock :: bytes) = .error error

/-- What befalls the writes of some packets from a place on: first the failures of each, and then
its arrival. -/
def script (failures : Nat → List Fate) (place count : Nat) : List Fate :=
  (List.range' place count).flatMap fun place => failures place ++ [arrives]

theorem script_succ (failures : Nat → List Fate) (place count : Nat) :
    script failures place (count + 1) =
      failures place ++ arrives :: script failures (place + 1) count := by
  simp [script, List.range'_succ]

end Fate

namespace Alteration

/-- One effect for each write; later writes are left alone. -/
def ofEffects (effects : List (List UInt8 → List UInt8)) : Alteration :=
  fun write bytes => effects[write]?.getD id bytes

/-- The effects that are left determine the next one. -/
theorem ofEffects_of_drop {effects rest : List (List UInt8 → List UInt8)} {write : Nat}
    {effect : List UInt8 → List UInt8} (left : effects.drop write = effect :: rest)
    (bytes : List UInt8) : ofEffects effects write bytes = effect bytes := by
  have next : effects[write]? = some effect := by
    rw [← List.head?_drop, left, List.head?_cons]
  rw [ofEffects, next, Option.getD_some]

end Alteration

namespace Fate

/-- What a script does to the writes of the sender. -/
def forth (script : List Fate) : Alteration :=
  .ofEffects (script.map onPacket)

/-- What a script does to the writes of the receiver, whose first one is left alone. -/
def back (script : List Fate) : Alteration :=
  .ofEffects (id :: script.flatMap onAnswer)

/-- After some writes of either end, some fates are left of a script. -/
structure Leaves (script : List Fate) (sent answered : Nat) (rest : List Fate) : Prop where
  packets : (script.map onPacket).drop sent = rest.map onPacket
  answers : (id :: script.flatMap onAnswer).drop answered = rest.flatMap onAnswer

variable {script rest : List Fate} {fate : Fate} {sent answered : Nat}

theorem leaves_all (script : List Fate) : Leaves script 0 1 script :=
  ⟨rfl, rfl⟩

theorem back_zero (script : List Fate) (bytes : List UInt8) : back script 0 bytes = bytes := rfl

theorem Leaves.forth_eq (leaves : Leaves script sent answered (fate :: rest))
    (bytes : List UInt8) : forth script sent bytes = fate.onPacket bytes :=
  Alteration.ofEffects_of_drop leaves.packets bytes

theorem Leaves.back_eq (leaves : Leaves script sent answered (fate :: rest))
    {effect : List UInt8 → List UInt8} (answer : fate.onAnswer = [effect]) (bytes : List UInt8) :
    back script answered bytes = effect bytes := by
  have left := leaves.answers
  rw [List.flatMap_cons, answer] at left
  exact Alteration.ofEffects_of_drop left bytes

theorem Leaves.next (leaves : Leaves script sent answered (fate :: rest)) :
    Leaves script (sent + 1) (answered + fate.onAnswer.length) rest where
  packets := by
    rw [← List.drop_drop, leaves.packets]
    rfl
  answers := by
    rw [← List.drop_drop, leaves.answers, List.flatMap_cons, List.drop_left]

end Fate
end Xmodem
