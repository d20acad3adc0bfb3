import Xmodem.Proofs.Freshness
import Xmodem.Proofs.Receiver.Image
import Xmodem.Transfer

/-!
# Sessions of a transfer

A transfer that receives is one receiver, or a boot loop of them.  Either way its conversation is
that of its sessions, one after the other, and what it has received in the end are the payloads that
its last session accepted, whatever the sessions before it left behind.
-/

namespace Xmodem

theorem Destination.exists_eq_filled {capacity : Int} {fill : UInt8} {destination : Destination}
    (exists_one : Destination.ofCapacity? capacity fill = .ok destination) :
    ∃ count : Nat, capacity = count ∧ destination = .filled count fill := by
  unfold Destination.ofCapacity? at exists_one
  split at exists_one
  · cases exists_one
  split at exists_one
  · cases exists_one
  rename_i natural
  exact ⟨capacity.toNat, (Int.toNat_of_nonneg (Int.not_lt.mp natural)).symm,
    (Except.ok.inj exists_one).symm⟩

variable {τ : Type} [Quantity τ]

namespace Transfer

/-- What the current receiver of a transfer does at a moment of the transfer. -/
def inner? (moment : Moment (Transfer τ) τ) : Option (Moment (Receiver τ) τ) :=
  match moment.session with
  | .sending _ => none
  | .receiving receiver => some ⟨receiver, moment.asked, moment.answer, moment.answered⟩
  | .booting loop => some ⟨loop.receiver, moment.asked, moment.answer, moment.answered⟩

/-- The transfer of a receiver, which is followed by fresh ones if it is to be repeated. -/
def ofReceiver (repeated : Bool) (receiver : Receiver τ) : Transfer τ :=
  if repeated then .booting (.start none receiver) else .receiving receiver

section Conversing

variable {moments : List (Moment (Transfer τ) τ)} {transfer : Transfer τ}

theorem converses_receiving {first : Receiver τ}
    (talks : Converses (receiving first) moments transfer) :
    ∃ receiver, transfer = .receiving receiver ∧
      Converses first (moments.filterMap inner?) receiver := by
  induction talks with
  | silent => exact ⟨first, rfl, .silent⟩
  | @step moments moment _ valid induction =>
      obtain ⟨receiver, same, talks⟩ := induction
      obtain ⟨session, asked, answer, answered⟩ := moment
      obtain rfl : session = .receiving receiver := same
      have inner_valid : (Moment.mk receiver asked answer answered).Valid :=
        ⟨valid.allowed, valid.prompt⟩
      rw [List.filterMap_append]
      exact ⟨_, rfl, talks.step inner_valid⟩

theorem converses_booting {first : BootLoop τ}
    (talks : Converses (booting first) moments transfer) :
    ∃ loop others, transfer = .booting loop ∧ Converses first others loop ∧
      others.map BootLoop.inner = moments.filterMap inner? := by
  induction talks with
  | silent => exact ⟨first, [], rfl, .silent, rfl⟩
  | @step moments moment _ valid induction =>
      obtain ⟨loop, others, same, talks, inner_eq⟩ := induction
      obtain ⟨session, asked, answer, answered⟩ := moment
      obtain rfl : session = .booting loop := same
      have inner_valid : (Moment.mk loop asked answer answered).Valid :=
        ⟨valid.allowed, valid.prompt⟩
      refine ⟨_, _, rfl, talks.step inner_valid, ?_⟩
      rw [List.map_append, List.filterMap_append, inner_eq]
      rfl

/-- A transfer that receives consists of sessions, one after the other; without repetition there is
only one. -/
theorem exists_sittings {setup : Receiver.Setup τ} {initial : Destination} {begun : τ}
    {repeated : Bool}
    (talks : Converses (ofReceiver repeated (.start setup initial begun)) moments transfer) :
    ∃ earlier current, Sittings setup initial begun earlier current ∧
      moments.filterMap inner? = earlier.flatMap Sitting.moments ++ current.moments ∧
      (repeated = false → earlier = []) ∧
      Session.outcome? transfer = current.last.outcome? ∧
      transfer.destination? = some current.last.destination := by
  cases repeated with
  | false =>
      obtain ⟨receiver, rfl, inner_talks⟩ := converses_receiving talks
      exact ⟨[], _, .first inner_talks, rfl, fun _ => rfl, rfl, rfl⟩
  | true =>
      obtain ⟨loop, others, rfl, inner_talks, inner_eq⟩ := converses_booting talks
      obtain ⟨earlier, current, retraces⟩ := BootLoop.exists_retraces inner_talks nofun
      have receiver_eq := retraces.receiver_eq
      refine ⟨earlier, current, retraces.sittings, ?_, nofun, ?_, ?_⟩
      · exact inner_eq ▸ retraces.moments_eq
      · exact congrArg Receiver.outcome? receiver_eq
      · exact congrArg (fun receiver => some receiver.destination) receiver_eq

end Conversing
end Transfer

namespace Sittings

open Destination

/-- What the last session of a transfer received are the payloads that it accepted, cut at what it
reports. -/
theorem slice_eq {setup : Receiver.Setup τ} {initial : Destination} {begun : τ}
    {earlier : List (Sitting τ)} {current : Sitting τ} {count : Nat}
    (sittings : Sittings setup initial begun earlier current)
    (succeeded : current.last.outcome? = some (.ok count)) :
    count ≤ initial.capacity ∧ (current.last.destination.slice 0 count).length = count ∧
      current.last.destination.slice 0 count =
        (Packets.payloads (Receiver.accepted (current.moments.map Receiver.deed))).take count := by
  have talks := sittings.converses
  obtain ⟨course, -, stands⟩ := Receiver.exists_treads talks
  have image := Receiver.image_of_converses talks
  obtain rfl := Receiver.eq_transferred_of_converses talks succeeded
  have inside := current.last.transferred_le
  have fits : current.last.cursor ≤ current.initial.capacity := by
    rw [image.cursor_eq]
    exact Nat.min_le_right ..
  have short := inside.trans fits
  have held := stands.keeps.capacity_eq
  have cut : current.last.destination.slice 0 current.last.transferred =
      current.last.destination.toList.take current.last.transferred :=
    Destination.slice_eq _ _ _ (held ▸ short)
  refine ⟨sittings.capacity_eq ▸ short, ?_, ?_⟩
  · rw [cut, List.length_take, length_toList, held, Nat.min_eq_left short]
  · have stored := congrArg (List.take current.last.transferred) image.stored
    rw [List.take_take, List.take_take, Nat.min_eq_left inside, Nat.min_eq_left short] at stored
    rw [cut, stored]

end Sittings
end Xmodem
