import Xmodem.Proofs.CommandLine.Stages

/-!
# What a job does to its port

A job that opens a port uses it for a while, closes it once, and leaves it alone after that.  The
exception is a command to receive whose capacity or limits are refused, or which finds no memory: it
ends while the port is open.  A port that cannot be opened is never used.
-/

namespace Xmodem.CommandLine

/-- What a job does to its port. -/
inductive PortUse where
  /-- It asks for the port in vain. -/
  | refused
  /-- It opens the port. -/
  | opened
  /-- It reads from the port or writes to it. -/
  | used
  /-- It closes the port. -/
  | closed
  deriving DecidableEq, Repr

/-- What a job does to its port at a moment. -/
def JobMoment.use? (moment : JobMoment) : Option PortUse :=
  match moment.action, moment.answer with
  | .openPort _ _, .opened (.ok _) => some .opened
  | .openPort _ _, _ => some .refused
  | .read _, _ | .write _, _ => some .used
  | .closePort, _ => some .closed
  | _, _ => none

namespace Job

/-- What a job did to its port in some moments, in order. -/
def uses (moments : List JobMoment) : List PortUse :=
  moments.filterMap JobMoment.use?

/-- Whether there was no memory for a destination at one of some moments. -/
def Starved (moments : List JobMoment) : Prop :=
  ∃ moment ∈ moments, moment.answer = .reserved false

/-- Whether a port was opened, used some number of times, and then closed. -/
def Released (uses : List PortUse) : Prop :=
  ∃ count, uses = .opened :: List.replicate count .used ++ [.closed]

/-- Whether a job has its port yet to open, has it in its charge, or is done with it. -/
inductive Charge where
  /-- The port is yet to be opened. -/
  | before
  /-- The port is open, but not certain to be closed. -/
  | waiting
  /-- The port is to be closed in the end. -/
  | during
  /-- The port is of no concern any more. -/
  | after

/-- How a job stands to its port at a stage. -/
def charge : Stage → Charge
  | .idle | .loading _ | .opening _ _ _ | .preparing _ _ | .measuring _ _ => .before
  | .reserving _ => .waiting
  | .writing _ | .transferring _ | .closing _ => .during
  | .storing _ _ | .ended _ => .after

/-- What a job has done to its port when it comes to a stage; it may have been starved before. -/
inductive Handles (command : Command) (starved : Prop) : Stage → List PortUse → Prop
  | before {stage : Stage} : charge stage = .before → Handles command starved stage []
  | never {ending : Ending} : Handles command starved (.ended ending) []
  | refused {ending : Ending} : Handles command starved (.ended ending) [.refused]
  | waiting {stage : Stage} : charge stage = .waiting → Handles command starved stage [.opened]
  | abandoned {ending : Ending} :
      (∃ error, command.Abandons error) ∨ starved →
      Handles command starved (.ended ending) [.opened]
  | during {stage : Stage} (count : Nat) :
      charge stage = .during → (∀ error, ¬ command.Abandons error) →
      Handles command starved stage (.opened :: List.replicate count .used)
  | after {stage : Stage} {uses : List PortUse} :
      charge stage = .after → (∀ error, ¬ command.Abandons error) → Released uses →
      Handles command starved stage uses

section Steps

variable {command : Command} {moments : List JobMoment} {moment : JobMoment}
  {files later : Files} {before stage : Stage} {uses : List PortUse} {starved starving : Prop}

theorem uses_append_singleton (moments : List JobMoment) (moment : JobMoment) :
    Job.uses (moments ++ [moment]) = Job.uses moments ++ moment.use?.toList := by
  cases same : moment.use? <;> simp [Job.uses, same]

/-- A transfer does no more to a port than use it. -/
theorem use?_of_transferring {transfer : Transfer Float}
    (transfers : moment.job.stage = .transferring transfer) :
    moment.use? = none ∨ moment.use? = some .used := by
  obtain ⟨⟨command, _, progress⟩, asked, answer, answered⟩ := moment
  obtain rfl := transfers
  simp only [JobMoment.use?, JobMoment.action, action]
  cases Session.action transfer asked with
  | proceed | stop => exact .inl rfl
  | read | write => exact .inr rfl

theorem Asked.handles {connection : Connection} {source : List UInt8}
    (asked : Asked connection source stage) : Handles command starved stage [] := by
  cases asked with
  | opening => exact .before rfl
  | refused | blank => exact .never

theorem Handles.eq_nil (handles : Handles command starved before uses)
    (early : charge before = .before) : uses = [] := by
  cases handles with
  | before => rfl
  | never | refused | abandoned => cases early
  | waiting holds | during _ holds | after holds => cases early.symm.trans holds

theorem Handles.eq_opened (handles : Handles command starved before uses)
    (waits : charge before = .waiting) : uses = [.opened] := by
  cases handles with
  | waiting => rfl
  | never | refused | abandoned => cases waits
  | before holds | during _ holds | after holds => cases waits.symm.trans holds

theorem Handles.exists_count (handles : Handles command starved before uses)
    (holds : charge before = .during) :
    (∀ error, ¬ command.Abandons error) ∧
      ∃ count, uses = .opened :: List.replicate count .used := by
  cases handles with
  | during count _ careful => exact ⟨careful, count, rfl⟩
  | never | refused | abandoned => cases holds
  | before other | waiting other | after other => cases other.symm.trans holds

theorem Handles.use {use : Option PortUse} (handles : Handles command starved before uses)
    (holds : charge before = .during) (harmless : use = none ∨ use = some .used)
    (still : charge stage = .during) : Handles command starving stage (uses ++ use.toList) := by
  obtain ⟨careful, count, rfl⟩ := handles.exists_count holds
  obtain rfl | rfl := harmless
  · rw [Option.toList_none, List.append_nil]
    exact .during count still careful
  · rw [Option.toList_some, List.cons_append, ← List.replicate_succ']
    exact .during (count + 1) still careful

theorem Handles.close (handles : Handles command starved before uses)
    (holds : charge before = .during) (done : charge stage = .after) :
    Handles command starving stage (uses ++ [.closed]) := by
  obtain ⟨careful, count, rfl⟩ := handles.exists_count holds
  exact .after done careful ⟨count, rfl⟩

theorem Handles.leave {ending : Ending} (handles : Handles command starved before uses)
    (stores : ∃ name image, before = .storing name image) :
    Handles command starving (.ended ending) uses := by
  obtain ⟨name, image, rfl⟩ := stores
  cases handles with
  | before holds | waiting holds | during _ holds => cases holds
  | after _ careful released => exact .after rfl careful released

/-- What a job does to its port at a moment fits the stage that follows. -/
theorem Handles.turn (handles : Handles command starved moment.job.stage uses)
    (turns : Turns moment.answered command moment.job.stage moment.answer moment.after.stage)
    (starves : moment.answer = .reserved false → starving) :
    Handles command starving moment.after.stage (uses ++ moment.use?.toList) := by
  have transfers := @use?_of_transferring moment
  generalize moment.after.stage = later at turns ⊢
  obtain ⟨⟨owner, before, progress⟩, asked, answer, answered⟩ := moment
  change Handles command starved before uses at handles
  change Turns answered command before answer later at turns
  cases turns with
  | refuse | misname =>
      obtain rfl := handles.eq_nil rfl
      exact .never
  | @unread _ input =>
      obtain rfl := handles.eq_nil rfl
      cases input <;> exact .never
  | load =>
      obtain rfl := handles.eq_nil rfl
      exact .before rfl
  | @read _ input _ _ _ asks =>
      obtain rfl := handles.eq_nil rfl
      cases input <;> exact asks.handles
  | ask asks =>
      obtain rfl := handles.eq_nil rfl
      exact asks.handles
  | unopened =>
      obtain rfl := handles.eq_nil rfl
      exact .refused
  | exceed impossible =>
      obtain rfl := handles.eq_nil rfl
      exact .abandoned (.inl ⟨_, .capacity impossible⟩)
  | reserve =>
      obtain rfl := handles.eq_nil rfl
      exact .waiting rfl
  | lack =>
      obtain rfl := handles.eq_opened rfl
      exact .abandoned (.inr (starves rfl))
  | abandon possible refused =>
      obtain rfl := handles.eq_opened rfl
      exact .abandoned (.inl ⟨_, .policy possible refused⟩)
  | rejectReception rejects =>
      obtain rfl := handles.eq_opened rfl
      exact .during 0 rfl fun _ abandons => abandons.not_rejects rejects
  | conductReception conducts =>
      obtain rfl := handles.eq_opened rfl
      exact .during 0 rfl fun _ abandons => abandons.not_conducts conducts
  | reject rejects =>
      obtain rfl := handles.eq_nil rfl
      exact .during 0 rfl fun _ abandons => abandons.not_rejects rejects
  | pour =>
      obtain rfl := handles.eq_nil rfl
      exact .during 0 rfl nofun
  | conduct conducts =>
      obtain rfl := handles.eq_nil rfl
      exact .during 0 rfl fun _ abandons => abandons.not_conducts conducts
  | poured | spill | spoil => exact handles.use rfl (.inr rfl) rfl
  | transfer | fail | send | receive => exact handles.use rfl (transfers rfl) rfl
  | leave | report | withhold | store => exact handles.close rfl rfl
  | stored | unstored =>
      rw [show JobMoment.use? _ = none from rfl, Option.toList_none, List.append_nil]
      exact handles.leave ⟨_, _, rfl⟩

/-- A moment that leaves a job without memory ends it while the port is open. -/
theorem Handles.starve (handles : Handles command starved moment.job.stage uses)
    (turns : Turns moment.answered command moment.job.stage moment.answer moment.after.stage)
    (starves : moment.answer = .reserved false) :
    uses ++ moment.use?.toList = [.opened] ∧ ∃ ending, moment.after.stage = .ended ending := by
  generalize moment.after.stage = later at turns ⊢
  obtain ⟨⟨owner, before, progress⟩, asked, answer, answered⟩ := moment
  change Handles command starved before uses at handles
  change Turns answered command before answer later at turns
  obtain rfl := starves
  cases turns with
  | lack =>
      obtain rfl := handles.eq_opened rfl
      exact ⟨rfl, _, rfl⟩

/-- Whatever its surroundings do, a job has done to its port what fits its stage; and one that was
starved is over, and has done no more than to open it. -/
theorem handles_of_undertakes {final : Job} (needs : command.NeedsPort)
    (undertakes : (start command).Undertakes files moments final later) :
    Handles command (Starved moments) final.stage (Job.uses moments) ∧
      (Starved moments →
        Job.uses moments = [.opened] ∧ ∃ ending, final.stage = .ended ending) := by
  refine holds_of_undertakes (fun moments stage =>
    Handles command (Starved moments) stage (Job.uses moments) ∧
      (Starved moments → Job.uses moments = [.opened] ∧ ∃ ending, stage = .ended ending))
    ⟨.before rfl, by simp [Starved]⟩ ?_ needs undertakes
  rintro moments moment _ _ ⟨handles, stopped⟩ _ turns
  rw [uses_append_singleton]
  refine ⟨handles.turn turns fun starves => ⟨moment, by simp, starves⟩, ?_⟩
  rintro ⟨other, met, starves⟩
  obtain earlier | latest := List.mem_append.mp met
  · obtain ⟨-, ending, ended⟩ := stopped ⟨other, earlier, starves⟩
    rw [ended] at turns
    cases turns
  · obtain rfl := List.mem_singleton.mp latest
    exact handles.starve turns starves

end Steps

section Ending

variable {arguments : List String} {invocation : Invocation} {files later : Files}
  {moments : List JobMoment} {final : Job} {ending : Ending}

/-- A command that opened its port has closed it once when it is over, and used it only before
that.  The exception is a command to receive that finds its capacity or its limits refused, or no
memory, once the port is open: it leaves the port open, and unused.  A port that was not opened was
not used either. -/
theorem released_unless_abandoned (understood : Invocation.ofArguments arguments = .ok invocation)
    (asks : Invocation.AsksForPort arguments)
    (undertakes : (start invocation.command).Undertakes files moments final later)
    (ends : final.ending? = some ending) :
    (.opened ∈ uses moments → (∀ error, ¬ invocation.command.Abandons error) →
      ¬ Starved moments → Released (uses moments)) ∧
    (.opened ∈ uses moments → (∃ error, invocation.command.Abandons error) ∨ Starved moments →
      uses moments = [.opened]) ∧
    (.opened ∉ uses moments → uses moments = [] ∨ uses moments = [.refused]) := by
  obtain ⟨handles, stopped⟩ := handles_of_undertakes
    (Invocation.needsPort_of_asksForPort understood asks) undertakes
  rw [ending?_eq_some_iff.mp ends] at handles
  generalize uses moments = used at handles stopped
  cases handles with
  | before early | waiting early | during _ early => cases early
  | never => simp
  | refused => simp
  | abandoned reason =>
      refine ⟨fun _ careful fed => ?_, by simp, by simp⟩
      obtain ⟨error, abandons⟩ | starved := reason
      · exact absurd abandons (careful error)
      · exact absurd starved fed
  | after _ careful released =>
      refine ⟨fun _ _ _ => released, fun _ reason => ?_, ?_⟩
      · obtain ⟨error, abandons⟩ | starved := reason
        · exact absurd abandons (careful error)
        · exact (stopped starved).1
      · obtain ⟨count, rfl⟩ := released
        simp

/-- Nothing is sent without the protocol; the port is opened, used, and closed. -/
theorem released_of_raw :
    let arguments := ["send", "tty0", "-r"]
    ∃ invocation moments final later,
      Invocation.ofArguments arguments = .ok invocation ∧ Invocation.AsksForPort arguments ∧
      (start invocation.command).Undertakes (.ofList []) moments final later ∧
      final.ending? = some (.exit .success) ∧ .opened ∈ uses moments ∧
      (∀ error, ¬ invocation.command.Abandons error) ∧ ¬ Starved moments ∧
      Released (uses moments) := by
  intro arguments
  obtain ⟨invocation, moments, final, later, understood, undertakes, passed⟩ :=
    @exists_rehearsed arguments [] ⟨.ok (), ⟨[], none, [], 0⟩, 0, []⟩ 5
      (fun job moments => job.ending? = some (.exit .success) ∧ .opened ∈ uses moments ∧
        .closed ∈ uses moments) (by decide +kernel)
  obtain ⟨ends, opens, closes⟩ := of_decide_eq_true passed
  have asks : Invocation.AsksForPort arguments :=
    ⟨.given .info, false, "send", arguments.tail, rfl, .inl rfl⟩
  obtain ⟨released, left, -⟩ := released_unless_abandoned understood asks undertakes ends
  have sound :
      ¬ ((∃ error, invocation.command.Abandons error) ∨ Starved moments) := by
    intro reason
    rw [left opens reason] at closes
    simp at closes
  have careful (error : Escape) : ¬ invocation.command.Abandons error :=
    fun abandons => sound (.inl ⟨error, abandons⟩)
  have fed : ¬ Starved moments := fun starved => sound (.inr starved)
  exact ⟨invocation, moments, final, later, understood, asks, undertakes, ends, opens, careful, fed,
    released opens careful fed⟩

/-- A command to receive with a number of retries below zero leaves its port open. -/
theorem unreleased_of_negative_retries :
    let arguments := ["recv", "tty0", "--out", "o", "--capacity", "1", "--retries", "-1"]
    ∃ invocation moments final later,
      Invocation.ofArguments arguments = .ok invocation ∧ Invocation.AsksForPort arguments ∧
      (start invocation.command).Undertakes (.ofList []) moments final later ∧
      final.ending?.isSome ∧ .opened ∈ uses moments ∧ .closed ∉ uses moments := by
  intro arguments
  obtain ⟨invocation, moments, final, later, understood, undertakes, passed⟩ :=
    @exists_rehearsed arguments [] ⟨.ok (), ⟨[], none, [], 0⟩, 0, []⟩ 5
      (fun job moments => job.ending?.isSome ∧ .opened ∈ uses moments ∧ .closed ∉ uses moments)
      (by decide +kernel)
  obtain ⟨ends, opens, open_still⟩ := of_decide_eq_true passed
  have asks : Invocation.AsksForPort arguments :=
    ⟨.given .info, false, "recv", arguments.tail, rfl, .inr rfl⟩
  exact ⟨invocation, moments, final, later, understood, asks, undertakes, ends, opens, open_still⟩

end Ending
end Job
end Xmodem.CommandLine
