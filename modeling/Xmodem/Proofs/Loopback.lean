import Xmodem.Link.Loopback
import Xmodem.Proofs.SingleFault

/-!
# Loopbacks

What one end of a link writes arrives at the other end in the order of writing, less what is lost,
and with at most one bit of a byte inverted.  Reads, the opposite direction, and the moment of a
read make no difference to it, and a closed end has no part in it.
-/

namespace Xmodem

namespace Damage

theorem getLsbD_inverted (value : UInt8) (bit : Fin 8) (place : Nat) :
    (value ^^^ mask bit).toBitVec.getLsbD place =
      (value.toBitVec.getLsbD place != decide (place = bit)) := by
  have lone : ∀ (bit : Fin 8) (place : Fin 8),
      (mask bit).toBitVec.getLsbD place = decide (place = bit) := by decide
  rw [UInt8.toBitVec_xor, BitVec.getLsbD_xor]
  by_cases inside : place < 8
  · have alone := lone bit ⟨place, inside⟩
    simp only [Fin.ext_iff] at alone
    rw [alone]
  · have outside : place ≠ bit := fun same => inside (same ▸ bit.isLt)
    rw [BitVec.getLsbD_of_ge _ _ (Nat.le_of_not_lt inside),
      BitVec.getLsbD_of_ge _ _ (Nat.le_of_not_lt inside)]
    simp [outside]

end Damage

/-- What becomes of one byte on its way. -/
inductive Treatment where
  /-- It is lost. -/
  | lost
  /-- It arrives. -/
  | intact
  /-- It arrives with one bit inverted. -/
  | inverted (bit : Fin 8)
  deriving DecidableEq, Repr

namespace Treatment

/-- What arrives of a byte. -/
def apply (value : UInt8) : Treatment → Option UInt8
  | lost => none
  | intact => some value
  | inverted bit => some (value ^^^ Damage.mask bit)

/-- What arrives of some bytes, one after the other. -/
def survivors (bytes : List UInt8) (treatments : List Treatment) : List UInt8 :=
  (List.zipWith apply bytes treatments).reduceOption

end Treatment

namespace Impairment

section Passing

variable {τ γ : Type} [Quantity τ] [Generator γ]

/-- Bytes that are sent in two parts fare as if they were sent at once. -/
theorem pass_append (impairment : Impairment τ γ) (front back : List UInt8) :
    (impairment.pass (front ++ back)).delivered =
        (impairment.pass front).delivered ++
          ((impairment.pass front).impairment.pass back).delivered ∧
      (impairment.pass (front ++ back)).impairment =
        ((impairment.pass front).impairment.pass back).impairment := by
  induction front generalizing impairment with
  | nil => exact ⟨rfl, rfl⟩
  | cons byte front induction =>
      simp only [List.cons_append, pass]
      split
      · exact induction _
      · obtain ⟨delivered, after⟩ := induction impairment.drop.2.flips.2
        exact ⟨congrArg (_ :: ·) delivered, after⟩

end Passing

variable {γ : Type}

/-- What an impairment may do to some bytes: everything is lost or nothing, and inverted or not, at
the extreme rates. -/
structure Treats (impairment : Impairment Rat γ) (treatments : List Treatment) : Prop where
  none_lost : impairment.lossRate ≤ 0 → .lost ∉ treatments
  all_lost : 1 ≤ impairment.lossRate → ∀ treatment ∈ treatments, treatment = .lost
  none_inverted : impairment.corruptRate ≤ 0 → ∀ bit, .inverted bit ∉ treatments
  none_intact : 1 ≤ impairment.corruptRate → .intact ∉ treatments

variable {impairment : Impairment Rat γ}

theorem Treats.of_rates {other : Impairment Rat γ} {treatments : List Treatment}
    (treats : other.Treats treatments) (loss : other.lossRate = impairment.lossRate)
    (corrupt : other.corruptRate = impairment.corruptRate) : impairment.Treats treatments := by
  obtain ⟨none_lost, all_lost, none_inverted, none_intact⟩ := treats
  rw [loss] at none_lost all_lost
  rw [corrupt] at none_inverted none_intact
  exact ⟨none_lost, all_lost, none_inverted, none_intact⟩

theorem Treats.lose {treatments : List Treatment} (treats : impairment.Treats treatments)
    (lossy : 0 < impairment.lossRate) : impairment.Treats (.lost :: treatments) where
  none_lost lossless := absurd lossy (not_lt.mpr lossless)
  all_lost full := List.forall_mem_cons.mpr ⟨rfl, treats.all_lost full⟩
  none_inverted exact_bits bit := by simpa using treats.none_inverted exact_bits bit
  none_intact full := by simpa using treats.none_intact full

theorem Treats.keep {treatments : List Treatment} (treats : impairment.Treats treatments)
    (some_left : impairment.lossRate < 1) (exact_left : impairment.corruptRate < 1) :
    impairment.Treats (.intact :: treatments) where
  none_lost lossless := by simpa using treats.none_lost lossless
  all_lost full := absurd some_left (not_lt.mpr full)
  none_inverted exact_bits bit := by simpa using treats.none_inverted exact_bits bit
  none_intact full := absurd exact_left (not_lt.mpr full)

theorem Treats.invert {treatments : List Treatment} (treats : impairment.Treats treatments)
    (some_left : impairment.lossRate < 1) (corrupt : 0 < impairment.corruptRate) (bit : Fin 8) :
    impairment.Treats (.inverted bit :: treatments) where
  none_lost lossless := by simpa using treats.none_lost lossless
  all_lost full := absurd some_left (not_lt.mpr full)
  none_inverted exact_bits := absurd corrupt (not_lt.mpr exact_bits)
  none_intact full := by simpa using treats.none_intact full

theorem value_lt_one (fraction : ProperFraction) : fraction.value Rat < 1 := by
  have positive : (0 : Rat) < (fraction.denominator : Int) := by
    exact_mod_cast Nat.zero_lt_of_lt fraction.proper
  refine (Rat.div_lt_iff positive).mpr ?_
  rw [one_mul]
  change ((fraction.numerator : Int) : Rat) < (fraction.denominator : Int)
  exact_mod_cast fraction.proper

section Chances

variable [Generator γ] {rate : Rat} {random : γ}

theorem pos_of_chance (happens : (chance rate random).1 = true) : 0 < rate := by
  unfold chance at happens
  split at happens
  · assumption
  · cases happens

theorem lt_one_of_chance (fails : (chance rate random).1 = false) : rate < 1 := by
  unfold chance at fails
  split at fails
  · have beyond : ¬ (Generator.fraction random).1.value Rat < rate := of_decide_eq_false fails
    exact (not_lt.mp beyond).trans_lt (value_lt_one _)
  · rename_i none
    exact (not_lt.mp none).trans_lt one_pos

end Chances

variable [Generator γ] (impairment)

theorem flips_cases :
    (0 < impairment.corruptRate ∧ ∃ bit, impairment.flips.1 = Damage.mask bit) ∨
      (impairment.corruptRate < 1 ∧ impairment.flips.1 = 0) := by
  unfold flips
  cases corrupt : (chance impairment.corruptRate impairment.random).1 with
  | true =>
      refine .inl ⟨pos_of_chance corrupt, ?_⟩
      simp only [corrupt, if_true]
      exact ⟨_, rfl⟩
  | false =>
      refine .inr ⟨lt_one_of_chance corrupt, ?_⟩
      simp only [corrupt, Bool.false_eq_true, if_false]

theorem rates_flips : impairment.flips.2.lossRate = impairment.lossRate ∧
    impairment.flips.2.corruptRate = impairment.corruptRate := by
  unfold flips
  cases corrupt : (chance impairment.corruptRate impairment.random).1 <;>
    simp only [corrupt, Bool.false_eq_true, if_true, if_false, and_self]

variable {impairment}

/-- Every byte is treated in one of the ways that the rates allow. -/
theorem exists_treats_pass (impairment : Impairment Rat γ) (bytes : List UInt8) :
    ∃ treatments, treatments.length = bytes.length ∧ impairment.Treats treatments ∧
      (impairment.pass bytes).delivered = Treatment.survivors bytes treatments := by
  induction bytes generalizing impairment with
  | nil => exact ⟨[], rfl, ⟨by simp, by simp, by simp, by simp⟩, rfl⟩
  | cons byte bytes induction =>
      simp only [pass]
      split
      · rename_i lost
        have drawn : (chance impairment.lossRate impairment.random).1 = true := lost
        obtain ⟨treatments, length_eq, treats, delivered⟩ := induction impairment.drop.2
        have treats : impairment.Treats treatments := treats.of_rates rfl rfl
        exact ⟨.lost :: treatments, congrArg (· + 1) length_eq,
          treats.lose (pos_of_chance drawn), delivered⟩
      · rename_i left
        have drawn : (chance impairment.lossRate impairment.random).1 = false :=
          Bool.eq_false_iff.mpr left
        have some_left : impairment.lossRate < 1 := lt_one_of_chance drawn
        obtain ⟨loss, corrupt⟩ := impairment.drop.2.rates_flips
        obtain ⟨treatments, length_eq, treats, delivered⟩ := induction impairment.drop.2.flips.2
        have treats : impairment.Treats treatments := treats.of_rates loss corrupt
        obtain ⟨inexact, bit, inverted⟩ | ⟨exact_left, intact⟩ := impairment.drop.2.flips_cases
        · refine ⟨.inverted bit :: treatments, congrArg (· + 1) length_eq,
            treats.invert some_left inexact bit, ?_⟩
          rw [inverted, delivered]
          rfl
        · refine ⟨.intact :: treatments, congrArg (· + 1) length_eq,
            treats.keep some_left exact_left, ?_⟩
          rw [intact, delivered, UInt8.xor_zero]
          rfl

example : ((Impairment.mk (1 / 2 : Rat) (1 / 2) 0 (Random.ofSeed (some 3))).pass
    [1, 2, 3, 4]).delivered =
      Treatment.survivors [1, 2, 3, 4] [.lost, .inverted 4, .lost, .inverted 1] := by
  decide +kernel

end Impairment

namespace Loopback

variable {τ γ : Type}

/-- What a user can do at an end. -/
inductive Call (τ : Type) where
  /-- Write some bytes. -/
  | write (bytes : List UInt8)
  /-- Read for at most some time. -/
  | read (timeout : τ)
  /-- Close the end. -/
  | close

/-- What a user gets back. -/
inductive Reply where
  /-- Whether a write was refused. -/
  | wrote (result : Except Fault Unit)
  /-- What a read returned. -/
  | read (value? : Option UInt8)
  /-- Nothing. -/
  | closed

/-- The calls at one end, in order. -/
def callsAt (side : LinkEnd) (calls : List (LinkEnd × Call τ)) : List (Call τ) :=
  (calls.filter fun (place, _) => place = side).map (·.2)

/-- The bytes of all writes before an end is closed. -/
def accepted : List (Call τ) → List UInt8
  | [] => []
  | .write bytes :: calls => bytes ++ accepted calls
  | .read _ :: calls => accepted calls
  | .close :: _ => []

/-- Whether an end is closed. -/
def closes (calls : List (Call τ)) : Bool :=
  calls.any fun
    | .close => true
    | _ => false

/-- The bytes that were read at one end, in order. -/
def taken (side : LinkEnd) (replies : List (LinkEnd × Reply)) : List UInt8 :=
  replies.filterMap fun
    | (place, .read value?) => if place = side then value? else none
    | _ => none

variable [Quantity τ] [Generator γ]

/-- Make one call. -/
def perform (loopback : Loopback τ γ) (side : LinkEnd) : Call τ → Reply × Loopback τ γ
  | .write bytes =>
      let (result, loopback) := loopback.write side bytes
      (.wrote result, loopback)
  | .read timeout =>
      let (value?, loopback) := loopback.read side timeout
      (.read value?, loopback)
  | .close => (.closed, loopback.close side)

/-- Make calls at both ends in some order. -/
def performAll (loopback : Loopback τ γ) :
    List (LinkEnd × Call τ) → List (LinkEnd × Reply) × Loopback τ γ
  | [] => ([], loopback)
  | (side, call) :: calls =>
      let (reply, loopback) := loopback.perform side call
      let (replies, loopback) := loopback.performAll calls
      ((side, reply) :: replies, loopback)

/-- The bytes that calls at one end put on the link. -/
def queued (link : Link τ γ) (side : LinkEnd) (calls : List (LinkEnd × Call τ)) : List UInt8 :=
  if (link.terminal side).closed then [] else accepted (callsAt side calls)

/-- What a call at an end gives back and does to the link. -/
inductive Effect (place : LinkEnd) (link : Link τ γ) : Call τ → Reply → Link τ γ → Prop
  /-- A closed end writes nothing. -/
  | refused {bytes : List UInt8} :
      (link.terminal place).closed = true →
      Effect place link (.write bytes) (.wrote (.error (.closed place.name))) link
  /-- What an open end writes is queued at the other end, as far as it arrives. -/
  | passed {bytes : List UInt8} {after : Link τ γ} :
      (link.terminal place).closed = false →
      after.terminal place =
        { link.terminal place with
          writes := (link.terminal place).writes + 1
          impairment := ((link.terminal place).impairment.pass bytes).impairment } →
      after.terminal place.other =
        { link.terminal place.other with
          inbox := (link.terminal place.other).inbox ++
            ((link.terminal place).impairment.pass bytes).delivered } →
      Effect place link (.write bytes) (.wrote (.ok ())) after
  /-- Where nothing waits, nothing is read. -/
  | silent {timeout : τ} :
      (link.terminal place).inbox = [] → Effect place link (.read timeout) (.read none) link
  /-- The first byte that waits is read. -/
  | read {timeout : τ} {value : UInt8} {rest : List UInt8} {after : Link τ γ} :
      (link.terminal place).inbox = value :: rest →
      after.terminal place = { link.terminal place with inbox := rest } →
      after.terminal place.other = link.terminal place.other →
      Effect place link (.read timeout) (.read (some value)) after
  /-- An end is closed. -/
  | closed {after : Link τ γ} :
      after.terminal place = { link.terminal place with closed := true } →
      after.terminal place.other = link.terminal place.other →
      Effect place link .close .closed after

/-- What calls lead to at one end: what was and will be read at the other end, and what becomes of
the end itself. -/
structure Balanced (side : LinkEnd) (link : Link τ γ) (calls : List (LinkEnd × Call τ))
    (replies : List (LinkEnd × Reply)) (after : Link τ γ) : Prop where
  delivered : taken side.other replies ++ (after.terminal side.other).inbox =
    (link.terminal side.other).inbox ++
      ((link.terminal side).impairment.pass (queued link side calls)).delivered
  impairment_eq : (after.terminal side).impairment =
    ((link.terminal side).impairment.pass (queued link side calls)).impairment
  closed_eq : (after.terminal side).closed =
    ((link.terminal side).closed || closes (callsAt side calls))
  alteration_eq : (after.terminal side).alteration = (link.terminal side).alteration

section Calls

open Impairment

variable {loopback : Loopback τ γ} {link after : Link τ γ} {place : LinkEnd} {call : Call τ}
  {reply : Reply} {calls : List (LinkEnd × Call τ)}

omit [Quantity τ] [Generator γ] in
theorem prepare_of_open (opened : (link.terminal place).closed = false)
    (unaltered : (link.terminal place).alteration = .none) (bytes : List UInt8) :
    link.prepare place bytes = .ok (bytes, link.withTerminal place
      { link.terminal place with writes := (link.terminal place).writes + 1 }) := by
  have same : (link.terminal place).alteration (link.terminal place).writes bytes = bytes := by
    rw [unaltered]
    rfl
  unfold Link.prepare
  rw [if_neg (Bool.eq_false_iff.mp opened), same]

theorem write_of_closed (closed : (loopback.link.terminal place).closed = true)
    (bytes : List UInt8) :
    (loopback.write place bytes).1 = .error (.closed place.name) ∧
      (loopback.write place bytes).2.link = loopback.link := by
  simp only [write, Link.prepare, closed, if_true, and_self]

theorem write_of_open (opened : (loopback.link.terminal place).closed = false)
    (bytes : List UInt8) : (loopback.write place bytes).1 = .ok () := by
  simp only [write, Link.prepare, opened, Bool.false_eq_true, if_false]

omit [Generator γ] in
theorem read_eq (loopback : Loopback τ γ) (place : LinkEnd) (timeout : τ) :
    (loopback.read place timeout).1 = (loopback.link.terminal place).inbox.head? := by
  cases waiting : (loopback.link.terminal place).inbox <;>
    simp only [read, Link.read?, waiting] <;> rfl

theorem effect_perform (unaltered : (loopback.link.terminal place).alteration = .none)
    (call : Call τ) :
    Effect place loopback.link call (loopback.perform place call).1
      (loopback.perform place call).2.link := by
  cases call with
  | write bytes =>
      cases closed : (loopback.link.terminal place).closed with
      | true =>
          obtain ⟨refused, same⟩ := write_of_closed closed bytes
          simp only [perform, refused, same]
          exact .refused closed
      | false =>
          simp only [perform, write, prepare_of_open closed unaltered]
          refine .passed closed ?_ ?_
          · cases place <;> rfl
          · cases place <;> rfl
  | read timeout =>
      cases waiting : (loopback.link.terminal place).inbox with
      | nil =>
          simp only [perform, read, Link.read?, waiting]
          exact .silent waiting
      | cons value rest =>
          simp only [perform, read, Link.read?, waiting]
          exact .read waiting (Link.terminal_withTerminal_self ..)
            (Link.terminal_other_withTerminal ..)
  | close =>
      exact .closed (Link.terminal_withTerminal_self ..) (Link.terminal_other_withTerminal ..)

theorem Effect.balanced_self (effect : Effect place link call reply after) :
    Balanced place link [(place, call)] [(place, reply)] after := by
  cases effect with
  | refused closed => constructor <;> simp [queued, closed, Impairment.pass, closes, callsAt, taken]
  | passed opened own peer =>
      constructor <;> simp [queued, opened, own, peer, accepted, closes, callsAt, taken]
  | silent empty => constructor <;> simp [queued, Impairment.pass, accepted, closes, callsAt, taken]
  | read waiting own peer =>
      constructor <;> simp [queued, own, peer, Impairment.pass, accepted, closes, callsAt, taken]
  | closed own peer =>
      constructor <;> simp [queued, own, peer, Impairment.pass, accepted, closes, callsAt, taken]

theorem Effect.balanced_other (effect : Effect place link call reply after) :
    Balanced place.other link [(place, call)] [(place, reply)] after := by
  cases effect with
  | refused | silent =>
      constructor <;> simp [queued, Impairment.pass, accepted, closes, callsAt, taken]
  | passed _ own peer | closed own peer =>
      constructor <;> simp [queued, own, peer, Impairment.pass, accepted, closes, callsAt, taken]
  | read waiting own peer =>
      constructor <;>
        simp [queued, own, peer, waiting, Impairment.pass, accepted, closes, callsAt, taken]

omit [Quantity τ] in
theorem callsAt_append (side : LinkEnd) (front back : List (LinkEnd × Call τ)) :
    callsAt side (front ++ back) = callsAt side front ++ callsAt side back := by
  simp [callsAt]

omit [Quantity τ] in
/-- Behind the end of its writes, nothing of an end is accepted. -/
theorem accepted_append (front back : List (Call τ)) :
    accepted (front ++ back) =
      accepted front ++ if closes front then [] else accepted back := by
  induction front with
  | nil => rfl
  | cons call front induction =>
      cases call with
      | write bytes => simpa [accepted, closes] using congrArg (bytes ++ ·) induction
      | read timeout => simpa [accepted, closes] using induction
      | close => rfl

theorem taken_append (side : LinkEnd) (front back : List (LinkEnd × Reply)) :
    taken side (front ++ back) = taken side front ++ taken side back :=
  List.filterMap_append

theorem Balanced.append {side : LinkEnd} {middle : Link τ γ} {more : List (LinkEnd × Call τ)}
    {replies answers : List (LinkEnd × Reply)}
    (balanced : Balanced side link calls replies middle)
    (continues : Balanced side middle more answers after) :
    Balanced side link (calls ++ more) (replies ++ answers) after := by
  have queued_eq : queued link side (calls ++ more) =
      queued link side calls ++ queued middle side more := by
    unfold queued
    rw [balanced.closed_eq, callsAt_append, accepted_append]
    cases (link.terminal side).closed <;> simp
  obtain ⟨delivered, after_eq⟩ :=
    (link.terminal side).impairment.pass_append (queued link side calls) (queued middle side more)
  rw [← queued_eq] at delivered after_eq
  constructor
  · rw [delivered, taken_append, List.append_assoc, continues.delivered, balanced.impairment_eq,
      ← List.append_assoc, balanced.delivered, List.append_assoc]
  · rw [after_eq, continues.impairment_eq, balanced.impairment_eq]
  · rw [continues.closed_eq, balanced.closed_eq, callsAt_append, closes, closes, closes,
      List.any_append, Bool.or_assoc]
  · rw [continues.alteration_eq, balanced.alteration_eq]

/-- All calls keep the balance of both ends. -/
theorem balanced_performAll (loopback : Loopback τ γ)
    (unaltered : ∀ side, (loopback.link.terminal side).alteration = .none)
    (calls : List (LinkEnd × Call τ)) (side : LinkEnd) :
    Balanced side loopback.link calls (loopback.performAll calls).1
      (loopback.performAll calls).2.link := by
  induction calls generalizing loopback with
  | nil =>
      constructor <;> simp [performAll, taken, queued, callsAt, accepted, closes, Impairment.pass]
  | cons entry calls induction =>
      obtain ⟨place, call⟩ := entry
      have effect := effect_perform (unaltered place) call
      have balanced (side : LinkEnd) : Balanced side loopback.link [(place, call)]
          [(place, (loopback.perform place call).1)] (loopback.perform place call).2.link := by
        obtain rfl | rfl := side.eq_or_eq_other place
        · exact effect.balanced_self
        · exact effect.balanced_other
      refine (balanced side).append (induction _ fun side => ?_)
      rw [(balanced side).alteration_eq, unaltered]

end Calls

/-- How a link with unaltered ends serves its user in some order of calls. -/
structure Serves (impairment : LinkEnd → Impairment Rat γ) (loopback : Loopback Rat γ)
    (calls : List (LinkEnd × Call Rat)) : Prop where
  /-- What was read at one end and what waits there is what the impairment of the other end leaves
  of the writes there before it was closed. -/
  carries : ∀ side : LinkEnd,
    taken side.other (loopback.performAll calls).1 ++
        ((loopback.performAll calls).2.link.terminal side.other).inbox =
      ((impairment side).pass (accepted (callsAt side calls))).delivered
  /-- Every byte of these is lost, intact, or inverted in one bit, as the rates allow. -/
  treats : ∀ side : LinkEnd, ∃ treatments,
    treatments.length = (accepted (callsAt side calls)).length ∧
      (impairment side).Treats treatments ∧
      ((impairment side).pass (accepted (callsAt side calls))).delivered =
        Treatment.survivors (accepted (callsAt side calls)) treatments
  /-- A closed end refuses one more write, which changes nothing at either end. -/
  refuses : ∀ (side : LinkEnd) (bytes : List UInt8), closes (callsAt side calls) = true →
    ((loopback.performAll calls).2.write side bytes).1 = .error (.closed side.name) ∧
      ((loopback.performAll calls).2.write side bytes).2.link =
        (loopback.performAll calls).2.link
  /-- An open end does not. -/
  accepts : ∀ (side : LinkEnd) (bytes : List UInt8), closes (callsAt side calls) = false →
    ((loopback.performAll calls).2.write side bytes).1 = .ok ()
  /-- The first byte that waits can be read, whether or not an end is closed. -/
  reads : ∀ (side : LinkEnd) (timeout : Rat),
    ((loopback.performAll calls).2.read side timeout).1 =
      ((loopback.performAll calls).2.link.terminal side).inbox.head?

/-- Whatever generators draw and whatever calls its user makes at its two ends, a link loses and
inverts bytes only as the impairment of their own end makes it, and keeps them in order. -/
theorem serves_all_calls (impairment : LinkEnd → Impairment Rat γ)
    (calls : List (LinkEnd × Call Rat)) :
    Serves impairment
      (.start ⟨.fresh (impairment .a) .none, .fresh (impairment .b) .none⟩) calls := by
  let link : Link Rat γ := ⟨.fresh (impairment .a) .none, .fresh (impairment .b) .none⟩
  have unaltered (side : LinkEnd) : (link.terminal side).alteration = .none := by
    cases side <;> rfl
  have same (side : LinkEnd) : (link.terminal side).impairment = impairment side := by
    cases side <;> rfl
  have opened (side : LinkEnd) : (link.terminal side).closed = false := by cases side <;> rfl
  have empty (side : LinkEnd) : (link.terminal side).inbox = [] := by cases side <;> rfl
  have balanced := (start link).balanced_performAll unaltered calls
  have all_queued (side : LinkEnd) : queued link side calls = accepted (callsAt side calls) :=
    if_neg (Bool.eq_false_iff.mp (opened side))
  have closed_eq (side : LinkEnd) := (balanced side).closed_eq
  constructor
  case carries =>
    intro side
    have delivered := (balanced side).delivered
    change _ = (link.terminal side.other).inbox ++
      ((link.terminal side).impairment.pass (queued link side calls)).delivered at delivered
    rw [all_queued, same, empty, List.nil_append] at delivered
    exact delivered
  case treats => exact fun side => (impairment side).exists_treats_pass _
  case refuses =>
    intro side bytes closes
    exact write_of_closed (by rw [closed_eq, closes, Bool.or_true]) bytes
  case accepts =>
    intro side bytes closes
    refine write_of_open ?_ bytes
    rw [closed_eq, closes, Bool.or_false]
    exact opened side
  case reads => exact fun side timeout => read_eq _ side timeout

end Loopback
end Xmodem
