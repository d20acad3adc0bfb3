import Xmodem.Proofs.Performance
import Xmodem.Proofs.Sender.Language

/-!
# Whole transmissions

The packets of one sender arrive whole and in order, each of them once or several times, with
silences between them.
-/

namespace Xmodem

open Packets

/-- The script of some writes, each of them whole, with silences between them. -/
inductive Spaced {τ : Type} : List (List UInt8) → List (ScriptItem τ) → Prop
  | nil : Spaced [] []
  | silence {writes : List (List UInt8)} {items : List (ScriptItem τ)} :
      Spaced writes items → Spaced writes (.silence :: items)
  | write {bytes : List UInt8} {writes : List (List UInt8)} {items : List (ScriptItem τ)} :
      Spaced writes items → Spaced (bytes :: writes) (bytes.map .byte ++ items)

theorem Spaced.plain {τ : Type} {writes : List (List UInt8)} {items : List (ScriptItem τ)}
    (spaced : Spaced writes items) : Plain items := by
  induction spaced with
  | nil => exact fun _ member => absurd member List.not_mem_nil
  | silence _ induction => exact List.forall_mem_cons.mpr ⟨.inl rfl, induction⟩
  | write _ induction =>
      refine List.forall_mem_append.mpr ⟨List.forall_mem_map.mpr fun value _ => ?_, induction⟩
      exact .inr ⟨value, rfl⟩

namespace Packets

/-- What is left of the packets of a source when those up to some place were written: each packet is
the next one or the last one again. -/
inductive Remaining (mode : ChecksumMode) (source : List UInt8) :
    Nat → List (List UInt8) → Prop
  | nil {place : Nat} : Remaining mode source place []
  | packet {sent place : Nat} {writes : List (List UInt8)} :
      place ≤ blockCount source → sent = place ∨ sent = place + 1 →
      Remaining mode source (place + 1) writes →
      Remaining mode source sent (packet mode source place :: writes)

section Remaining

variable {mode : ChecksumMode} {source : List UInt8} {place sent : Nat}

theorem Remaining.copies {writes : List (List UInt8)} (inside : place ≤ blockCount source)
    (remaining : Remaining mode source (place + 1) writes) (count : Nat) :
    Remaining mode source (place + 1)
      (List.replicate count (Packets.packet mode source place) ++ writes) := by
  induction count with
  | zero => exact remaining
  | succ count induction => exact .packet inside (.inr rfl) induction

theorem remaining_zipIdx {counts : List Nat} (some_copy : ∀ count ∈ counts, 0 < count)
    (inside : place + counts.length ≤ blockCount source + 1) :
    Remaining mode source place ((counts.zipIdx place).flatMap fun (count, place) =>
      List.replicate count (Packets.packet mode source place)) := by
  induction counts generalizing place with
  | nil => exact .nil
  | cons count counts induction =>
      obtain ⟨first, others⟩ := List.forall_mem_cons.mp some_copy
      obtain ⟨count, rfl⟩ := Nat.exists_eq_add_of_le' first
      rw [List.length_cons] at inside
      refine .packet (by omega) (.inl rfl) (.copies (by omega) (induction others ?_) count)
      omega

theorem remaining_groups {counts : List Nat} (some_copy : ∀ count ∈ counts, 0 < count)
    (inside : counts.length ≤ blockCount source + 1) :
    Remaining mode source 0 (Sender.groups mode source counts) :=
  remaining_zipIdx some_copy (by omega)

/-- The script of what is left of the packets. -/
def Transmits {τ : Type} (mode : ChecksumMode) (source : List UInt8) (sent : Nat)
    (items : List (ScriptItem τ)) : Prop :=
  ∃ writes, Remaining mode source sent writes ∧ Spaced writes items

variable {τ : Type} {items rest : List (ScriptItem τ)}

theorem Transmits.tail_silence (transmits : Transmits mode source sent (.silence :: rest)) :
    Transmits mode source sent rest := by
  obtain ⟨writes, remaining, spaced⟩ := transmits
  generalize whole : .silence :: rest = items at spaced
  cases spaced with
  | nil => cases whole
  | silence spaced =>
      obtain rfl := (List.cons.inj whole).2
      exact ⟨_, remaining, spaced⟩
  | write spaced =>
      cases remaining with
      | @packet _ place =>
          obtain ⟨first, frame, begins⟩ :=
            List.exists_cons_of_ne_nil (packet_ne_nil mode source place)
          rw [begins, List.map_cons, List.cons_append] at whole
          exact absurd (List.cons.inj whole).1 nofun

/-- Whatever comes between the packets leaves them as they are. -/
theorem Transmits.consume {waiting : Bool} {sign : Option Sign}
    (transmits : Transmits mode source sent items) (consumes : Consumes waiting items sign rest)
    (unheard : ∀ value, sign ≠ some (.heard value)) : Transmits mode source sent rest := by
  cases consumes with
  | byte => exact absurd rfl (unheard _)
  | silence => exact transmits.tail_silence
  | exhausted | expire | move | wrote => exact transmits

theorem Transmits.opens {value : UInt8}
    (transmits : Transmits mode source sent (.byte value :: rest)) :
    (∃ place frame items, place < blockCount source ∧ (sent = place ∨ sent = place + 1) ∧
      value = startOfBlock ∧ packet mode source place = startOfBlock :: frame ∧
      rest = frame.map .byte ++ items ∧ Transmits mode source (place + 1) items) ∨
    value = Signal.byte .endOfTransmission ∧ blockCount source ≤ sent ∧
      Transmits mode source (blockCount source + 1) rest := by
  obtain ⟨writes, remaining, spaced⟩ := transmits
  generalize whole : .byte value :: rest = items at spaced
  cases spaced with
  | nil => cases whole
  | silence => cases whole
  | @write bytes writes items spaced =>
      cases remaining with
      | @packet _ place _ inside near remaining =>
          obtain before | last := Nat.lt_or_eq_of_le inside
          · have begins : packet mode source place = _ := packet_eq_cons before
            rw [begins, List.map_cons, List.cons_append] at whole
            obtain ⟨same, rfl⟩ := List.cons.inj whole
            exact .inl ⟨place, _, items, before, near, ScriptItem.byte.inj same, begins, rfl,
              _, remaining, spaced⟩
          · subst last
            rw [packet_blockCount] at whole
            obtain ⟨same, rfl⟩ := List.cons.inj whole
            exact .inr ⟨ScriptItem.byte.inj same, by omega, _, remaining, spaced⟩

end Remaining

end Packets
end Xmodem
