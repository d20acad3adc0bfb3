import Xmodem.Proofs.Conversation

/-!
# How sessions end

A session that is over has either completed or given up, and its fields agree with its outcome.  A
failure of the line ends a session at once, and no other ending blames the line.
-/

namespace Xmodem

namespace Sign

/-- Whether a call of the line failed. -/
def Fails : Sign → Prop
  | spoiled _ | broken => True
  | wrote _ | heard _ | silence => False

instance : DecidablePred Fails
  | spoiled _ | broken => .isTrue trivial
  | wrote _ | heard _ | silence => .isFalse id

theorem fails_broken : broken.Fails := trivial

theorem fails_spoiled (bytes : List UInt8) : (spoiled bytes).Fails := trivial

end Sign

/-- Whether no call of the line failed. -/
def Intact (signs : List Sign) : Prop :=
  ∀ sign ∈ signs, ¬ sign.Fails

instance (signs : List Sign) : Decidable (Intact signs) :=
  inferInstanceAs (Decidable (∀ sign ∈ signs, ¬ sign.Fails))

/-- Whether the last call of the line failed, and no other one. -/
def Failed (signs : List Sign) : Prop :=
  Ends (fun before sign => Intact before ∧ sign.Fails) signs

/-- Whether a cause blames the line exactly when the line failed. -/
def Blames (signs : List Sign) (cause : AbortCause) : Prop :=
  cause.reason ≠ .underlyingIoError ∧ Intact signs ∨
    cause.reason = .underlyingIoError ∧ Failed signs

/-- What a session shows of its ending, besides its outcome. -/
structure Account where
  /-- It is in the phase of complete transfers. -/
  completed : Prop
  /-- It is in the phase of transfers that were given up. -/
  aborted : Prop
  /-- Why it gave up. -/
  reason? : Option AbortReason
  /-- Number of bytes transferred. -/
  transferred : Nat
  /-- Number of bytes in its metrics. -/
  counted : Nat
  /-- The end was noted in its metrics. -/
  timed : Prop

/-- Which outcomes agree with what a session shows after some signs. -/
inductive Closes (signs : List Sign) (account : Account) : Option Outcome → Prop
  | going : Intact signs → Closes signs account none
  | completed :
      account.completed → account.reason? = none → account.counted = account.transferred →
      account.timed → Intact signs → Closes signs account (some (.ok account.transferred))
  | aborted {cause : AbortCause} :
      account.aborted → account.reason? = some cause.reason → account.timed → Blames signs cause →
      Closes signs account (some (.error ⟨cause, account.transferred⟩))

section Laws

variable {signs : List Sign} {sign : Sign} {account : Account} {outcome : Outcome}

theorem intact_nil : Intact [] := nofun

theorem Intact.append (intact : Intact signs) (works : ¬ sign.Fails) :
    Intact (signs ++ [sign]) := by
  intro other member
  obtain earlier | last := List.mem_append.mp member
  · exact intact other earlier
  · obtain rfl := List.mem_singleton.mp last
    exact works

theorem Intact.failed_append (intact : Intact signs) (fails : sign.Fails) :
    Failed (signs ++ [sign]) :=
  ⟨signs, sign, rfl, intact, fails⟩

theorem Failed.exists_fails (failed : Failed signs) : ∃ sign ∈ signs, sign.Fails := by
  obtain ⟨before, sign, rfl, _, fails⟩ := failed
  exact ⟨sign, by simp, fails⟩

theorem Failed.eq_nil (failed : Failed signs) {before after : List Sign}
    (same : signs = before ++ sign :: after) (fails : sign.Fails) : after = [] := by
  obtain ⟨earlier, last, rfl, intact, _⟩ := failed
  obtain rfl | ⟨after, other, rfl⟩ := after.eq_nil_or_concat
  · rfl
  · rw [List.concat_eq_append, ← List.cons_append, ← List.append_assoc] at same
    obtain ⟨rfl, _⟩ := List.append_singleton_inj.mp same
    exact absurd fails (intact sign (by simp))

theorem Closes.intact_or_failed {outcome : Option Outcome} (closes : Closes signs account outcome) :
    Intact signs ∨ Failed signs := by
  cases closes with
  | going intact => exact .inl intact
  | completed _ _ _ _ intact => exact .inl intact
  | aborted _ _ _ blames => exact blames.imp And.right And.right

theorem Blames.reason_eq_iff {cause : AbortCause} (blames : Blames signs cause) :
    cause.reason = .underlyingIoError ↔ ∃ sign ∈ signs, sign.Fails := by
  obtain ⟨other, intact⟩ | ⟨blamed, failed⟩ := blames
  · constructor
    · exact fun blamed => absurd blamed other
    · rintro ⟨sign, member, fails⟩
      exact absurd fails (intact sign member)
  · exact ⟨fun _ => failed.exists_fails, fun _ => blamed⟩

end Laws

variable {σ τ : Type} [Quantity τ] [Session σ τ]

/-- What a session that was run shows, whatever its line did. -/
structure Contained (signs : List Sign) (account : Account) (session : σ) : Prop where
  /-- It stops with an outcome, and with an outcome only. -/
  stops_iff : ∀ now,
    Session.action session now = .stop ↔ ∃ outcome, Session.outcome? session = some outcome
  /-- It completed with the number of bytes that it counted. -/
  completed : ∀ count, Session.outcome? session = some (.ok count) →
    account.completed ∧ account.reason? = none ∧ account.counted = count ∧
      account.transferred = count ∧ account.timed
  /-- It gave up for the reason that it shows. -/
  aborted : ∀ failure, Session.outcome? session = some (.error failure) →
    account.aborted ∧ account.reason? = some failure.reason ∧
      failure.transferred = account.transferred ∧ account.timed
  /-- It blames the line exactly when a call failed. -/
  blames_iff : ∀ outcome, Session.outcome? session = some outcome →
    ((∃ failure, outcome = .error failure ∧ failure.reason = .underlyingIoError) ↔
      ∃ sign ∈ signs, sign.Fails)
  /-- A call that failed was the last one. -/
  last : ∀ before sign after, signs = before ++ sign :: after → sign.Fails → after = []
  /-- It is not run again, and nothing is touched. -/
  again : ∀ (run : Run σ τ) (fuel : Nat), run.session = session →
    run.perform fuel = some (.error ⟨Session.role session⟩, run)

theorem Closes.contained {signs : List Sign} {account : Account} {session : σ}
    (closes : Closes signs account (Session.outcome? session))
    (stops : ∀ now,
      Session.action session now = .stop ↔ ∃ outcome, Session.outcome? session = some outcome)
    (begun : Session.idle session = false) : Contained signs account session where
  stops_iff := stops
  completed count ended := by
    rw [ended] at closes
    cases closes with
    | completed completed unblamed counted timed _ =>
        exact ⟨completed, unblamed, counted, rfl, timed⟩
  aborted failure ended := by
    rw [ended] at closes
    cases closes with
    | aborted aborted reason timed _ => exact ⟨aborted, reason, rfl, timed⟩
  blames_iff outcome ended := by
    rw [ended] at closes
    cases closes with
    | completed _ _ _ _ intact =>
        constructor
        · rintro ⟨_, ⟨⟩, _⟩
        · rintro ⟨sign, member, fails⟩
          exact absurd fails (intact sign member)
    | aborted _ _ _ blames =>
        rw [← blames.reason_eq_iff]
        constructor
        · rintro ⟨_, ⟨⟩, blamed⟩
          exact blamed
        · exact fun blamed => ⟨_, rfl, blamed⟩
  last before sign after same fails := by
    obtain intact | failed := closes.intact_or_failed
    · exact absurd fails (intact sign (by simp [same]))
    · exact failed.eq_nil same fails
  again run fuel same := by
    subst same
    simp [Run.perform, begun]

end Xmodem
