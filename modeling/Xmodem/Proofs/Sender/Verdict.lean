import Mathlib.Data.List.Induction
import Mathlib.Data.List.TakeWhile
import Xmodem.Proofs.Sender.Stages

/-!
# What replies come to

A sender that was called learns four things from its line: a packet was acknowledged, a packet was
refused, the receiver gave up, or nothing came in time.  These replies alone decide how it ends.  A
packet goes through when its acknowledgement comes before too many failures, and the transfer is
complete when all packets and the end of transmission went through.
-/

namespace Xmodem
namespace Sender

/-- What a sender learns when it waits for an answer. -/
inductive Reply where
  /-- The packet arrived. -/
  | acknowledged
  /-- The packet was damaged. -/
  | refused
  /-- The receiver gave up. -/
  | canceled
  /-- Nothing came in time. -/
  | expired
  deriving DecidableEq, Repr

namespace Reply

/-- The reply of which a sign tells. -/
def of? : Sign → Option Reply
  | .heard value =>
      if value = Signal.byte .acknowledge then some acknowledged
      else if value = Signal.byte .negativeAcknowledge then some refused
      else if value = Signal.byte .cancel then some canceled
      else none
  | .silence => some expired
  | .wrote _ | .spoiled _ | .broken => none

/-- Whether a reply calls for one more copy of the packet. -/
def Fails (reply : Reply) : Prop :=
  reply = refused ∨ reply = expired

end Reply

/-- Whether a sign is the call of a receiver. -/
def Calls (sign : Sign) : Prop :=
  ∃ value, sign = .heard value ∧ requested? value ≠ none

instance : DecidablePred Calls
  | .heard value => decidable_of_iff (requested? value ≠ none) (by simp [Calls])
  | .wrote _ | .spoiled _ | .silence | .broken => .isFalse nofun

/-- The replies among signs, behind the first call. -/
def answers (signs : List Sign) : List Reply :=
  ((signs.dropWhile fun sign => ¬ Calls sign).drop 1).filterMap Reply.of?

/-- How a sender ends that was called, when its line works. -/
inductive Verdict where
  /-- Everything was acknowledged. -/
  | delivered
  /-- One packet failed too often. -/
  | spent
  /-- The receiver gave up. -/
  | canceled
  deriving DecidableEq, Repr

/-- Whether some packets went through one after the other, each of them after a number of failures
that is borne. -/
inductive Served (most : Nat) : Nat → List Reply → Prop
  | nothing : Served most 0 []
  | packet {count : Nat} {front failures : List Reply} :
      Served most count front → (∀ reply ∈ failures, reply.Fails) → failures.length ≤ most →
      Served most (count + 1) (front ++ failures ++ [.acknowledged])

/-- Which replies, after some packets went through, decide how a sender of some packets ends. -/
inductive Decides (most packets : Nat) : Nat → Verdict → List Reply → Prop
  | delivered {front : List Reply} :
      Served most packets front → Decides most packets packets .delivered front
  | spent {count : Nat} {front failures : List Reply} :
      count < packets → Served most count front → (∀ reply ∈ failures, reply.Fails) →
      failures.length = most + 1 → Decides most packets count .spent (front ++ failures)
  | canceled {count : Nat} {front failures : List Reply} :
      count < packets → Served most count front → (∀ reply ∈ failures, reply.Fails) →
      failures.length ≤ most →
      Decides most packets count .canceled (front ++ failures ++ [.canceled])

/-- Whether replies begin with those that decide. -/
def Brings (most packets count : Nat) (verdict : Verdict) (replies : List Reply) : Prop :=
  ∃ front, front <+: replies ∧ Decides most packets count verdict front

/-- What was made of some replies. -/
structure Score where
  /-- Number of packets that went through. -/
  count : Nat
  /-- Number of failures since then. -/
  failures : Nat
  /-- What was decided. -/
  verdict : Option Verdict
  deriving DecidableEq, Repr

/-- Take account of one more reply; nothing counts after a decision. -/
def Score.note (most packets : Nat) (score : Score) (reply : Reply) : Score :=
  match score.verdict, reply with
  | some _, _ => score
  | none, .acknowledged =>
      { count := score.count + 1
        failures := 0
        verdict := if score.count + 1 = packets then some .delivered else none }
  | none, .refused | none, .expired =>
      { score with
        failures := score.failures + 1
        verdict := if score.failures = most then some .spent else none }
  | none, .canceled => { score with verdict := some .canceled }

/-- What replies come to, one after the other. -/
def score (most packets : Nat) (replies : List Reply) : Score :=
  replies.foldl (Score.note most packets) ⟨0, 0, none⟩

section Scores

variable {most packets count : Nat} {verdict : Verdict} {replies front failures : List Reply}
  {reply : Reply}

@[simp]
theorem score_append_singleton (most packets : Nat) (replies : List Reply) (reply : Reply) :
    score most packets (replies ++ [reply]) =
      (score most packets replies).note most packets reply := by
  simp [score]

theorem Score.note_of_fails (fails : reply.Fails) (most packets count failures : Nat) :
    note most packets ⟨count, failures, none⟩ reply =
      ⟨count, failures + 1, if failures = most then some .spent else none⟩ := by
  obtain rfl | rfl := fails
  · rfl
  · rfl

/-- A decision stands. -/
theorem score_of_decided (decided : (score most packets front).verdict = some verdict)
    (begins : front <+: replies) : score most packets replies = score most packets front := by
  obtain ⟨rest, rfl⟩ := begins
  induction rest using List.reverseRecOn with
  | nil => rw [List.append_nil]
  | append_singleton rest reply induction =>
      rw [← List.append_assoc, score_append_singleton, induction]
      unfold Score.note
      rw [decided]

theorem score_append_failures {borne : Nat}
    (served : score most packets front = ⟨count, borne, none⟩)
    (fail : ∀ reply ∈ failures, reply.Fails) (few : borne + failures.length ≤ most) :
    score most packets (front ++ failures) = ⟨count, borne + failures.length, none⟩ := by
  induction failures using List.reverseRecOn with
  | nil => rwa [List.append_nil]
  | append_singleton failures reply induction =>
      rw [List.length_append, List.length_singleton] at few ⊢
      have before := induction (fun other member => fail other (List.mem_append_left _ member))
        (by omega)
      have left : borne + failures.length ≠ most := by omega
      rw [← List.append_assoc, score_append_singleton, before,
        Score.note_of_fails (fail reply (by simp)), if_neg left]
      rfl

theorem score_of_served (served : Served most count replies) (inside : count ≤ packets)
    (some_packet : 0 < packets) :
    score most packets replies =
      ⟨count, 0, if count = packets then some .delivered else none⟩ := by
  induction served with
  | nothing => rw [if_neg some_packet.ne]; rfl
  | @packet count front failures _ fail few induction =>
      have before := induction (Nat.le_of_succ_le inside)
      rw [if_neg (Nat.ne_of_lt inside)] at before
      rw [score_append_singleton, score_append_failures before fail (by omega)]
      rfl

/-- The score tells what replies decide. -/
theorem score_of_decides (decides : Decides most packets count verdict replies)
    (some_packet : 0 < packets) :
    (score most packets replies).count = count ∧
      (score most packets replies).verdict = some verdict := by
  cases decides with
  | delivered served =>
      rw [score_of_served served (Nat.le_refl _) some_packet, if_pos rfl]
      exact ⟨rfl, rfl⟩
  | @spent _ front failures inside served fail long =>
      have before := score_of_served served inside.le some_packet
      rw [if_neg inside.ne] at before
      obtain rfl | ⟨failures, last, rfl⟩ := failures.eq_nil_or_concat
      · cases long
      · rw [List.concat_eq_append] at fail long ⊢
        rw [List.length_append, List.length_singleton] at long
        have borne := score_append_failures before
          (fun other member => fail other (List.mem_append_left _ member)) (by omega)
        rw [← List.append_assoc, score_append_singleton, borne,
          Score.note_of_fails (fail last (by simp)), if_pos (by omega)]
        exact ⟨rfl, rfl⟩
  | canceled inside served fail few =>
      have before := score_of_served served inside.le some_packet
      rw [if_neg inside.ne] at before
      rw [score_append_singleton, score_append_failures before fail (by omega)]
      exact ⟨rfl, rfl⟩

/-- How some replies are made up. -/
inductive Scored (most packets : Nat) (replies : List Reply) : Score → Prop
  | pending {count : Nat} {front failures : List Reply} :
      replies = front ++ failures → count < packets → Served most count front →
      (∀ reply ∈ failures, reply.Fails) → failures.length ≤ most →
      Scored most packets replies ⟨count, failures.length, none⟩
  | decided {score : Score} {verdict : Verdict} :
      score.verdict = some verdict → Brings most packets score.count verdict replies →
      Scored most packets replies score

theorem Scored.note {score : Score} (scored : Scored most packets replies score) (reply : Reply) :
    Scored most packets (replies ++ [reply]) (score.note most packets reply) := by
  cases scored with
  | decided verdict_eq brings =>
      obtain ⟨front, begins, decides⟩ := brings
      unfold Score.note
      rw [verdict_eq]
      exact .decided verdict_eq ⟨front, begins.trans (List.prefix_append _ _), decides⟩
  | @pending count front failures same inside served fail few =>
      subst same
      have failure (fails : reply.Fails) : Scored most packets (front ++ failures ++ [reply])
          (Score.note most packets ⟨count, failures.length, none⟩ reply) := by
        have still : ∀ other ∈ failures ++ [reply], other.Fails := by
          simpa [or_imp, forall_and] using ⟨fail, fails⟩
        have long : (failures ++ [reply]).length = failures.length + 1 := by simp
        rw [Score.note_of_fails fails]
        by_cases last : failures.length = most
        · rw [if_pos last]
          refine .decided rfl ⟨_, List.prefix_refl _, ?_⟩
          rw [List.append_assoc]
          exact .spent inside served still (long.trans (congrArg (· + 1) last))
        · rw [if_neg last, ← long]
          exact .pending (List.append_assoc ..) inside served still (by omega)
      cases reply with
      | refused => exact failure (.inl rfl)
      | expired => exact failure (.inr rfl)
      | canceled =>
          exact .decided rfl ⟨_, List.prefix_refl _, .canceled inside served fail few⟩
      | acknowledged =>
          have more := served.packet fail few
          unfold Score.note
          by_cases all : count + 1 = packets
          · simp only [all, if_true]
            refine .decided rfl ⟨_, List.prefix_refl _, ?_⟩
            exact all ▸ .delivered more
          · simp only [all, if_false]
            exact .pending (List.append_nil _).symm (by omega) more nofun (Nat.zero_le _)

theorem scored (some_packet : 0 < packets) (replies : List Reply) :
    Scored most packets replies (score most packets replies) := by
  induction replies using List.reverseRecOn with
  | nil => exact .pending rfl some_packet .nothing nofun (Nat.zero_le _)
  | append_singleton replies reply induction =>
      rw [score_append_singleton]
      exact induction.note reply

/-- The score decides as the grouping of the replies does. -/
theorem brings_iff (some_packet : 0 < packets) :
    Brings most packets count verdict replies ↔
      (score most packets replies).count = count ∧
        (score most packets replies).verdict = some verdict := by
  constructor
  · rintro ⟨front, begins, decides⟩
    have decided := score_of_decides decides some_packet
    rwa [score_of_decided decided.2 begins]
  · rintro ⟨rfl, decided⟩
    have made : Scored most packets replies (score most packets replies) :=
      scored some_packet replies
    generalize score most packets replies = total at decided made
    cases made with
    | pending => cases decided
    | decided also brings =>
        obtain rfl := Option.some.inj (decided.symm.trans also)
        exact brings

end Scores

section Answers

variable {signs : List Sign} {sign : Sign}

theorem answers_append_of_uncalled (uncalled : ∀ other ∈ signs, ¬ Calls other) (sign : Sign) :
    answers (signs ++ [sign]) = [] := by
  have skipped : signs.dropWhile (fun sign => ¬ Calls sign) = [] :=
    List.dropWhile_eq_nil_iff.mpr fun other member => decide_eq_true (uncalled other member)
  unfold answers
  rw [List.dropWhile_append, skipped]
  by_cases calls : Calls sign
  · simp [calls]
  · simp [calls]

theorem answers_append_of_called (called : ∃ other ∈ signs, Calls other) (sign : Sign) :
    answers (signs ++ [sign]) = answers signs ++ (Reply.of? sign).toList := by
  have some_left : signs.dropWhile (fun sign => ¬ Calls sign) ≠ [] := by
    obtain ⟨other, member, calls⟩ := called
    intro skipped
    have uncalled := List.dropWhile_eq_nil_iff.mp skipped other member
    exact of_decide_eq_true uncalled calls
  unfold answers
  rw [List.dropWhile_append]
  generalize signs.dropWhile (fun sign => ¬ Calls sign) = left at some_left ⊢
  obtain ⟨first, rest, rfl⟩ := List.exists_cons_of_ne_nil some_left
  cases reply : Reply.of? sign <;> simp [reply]

theorem Reply.exists_of_failure (failure : Failure sign) :
    ∃ reply, Reply.of? sign = some reply ∧ reply.Fails := by
  obtain rfl | rfl := failure
  · exact ⟨.refused, rfl, .inl rfl⟩
  · exact ⟨.expired, rfl, .inr rfl⟩

end Answers

end Sender
end Xmodem
