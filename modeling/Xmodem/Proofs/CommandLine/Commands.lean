import Xmodem.CommandLine.Invocation
import Xmodem.Proofs.CommandLine.Files

/-!
# Commands of a command line

A command line whose arguments have the command to receive, and are understood, is a command to
receive with the values of its switches.  Only where the severity of the notes is left blank it is
refused.  So is a command line with the command to send.
-/

namespace Xmodem.CommandLine

/-- Whether a command needs a port, or is refused before it comes to that. -/
def Command.NeedsPort : Command → Prop
  | .send _ _ _ | .receive _ _ | .refuse _ => True
  | .measure _ => False

namespace Invocation

/-- Whether arguments ask to receive from a port, with some values of the switches. -/
def Asks (arguments : List String) (options : Options) (port : String) : Prop :=
  ∃ threshold surplus rest,
    grammar.readLeniently (.given .info) arguments = .ok (threshold, surplus, "recv" :: rest) ∧
    Options.receiveGrammar.read .standard rest = .ok (options, [port])

/-- Whether arguments ask to send or to receive. -/
def AsksForPort (arguments : List String) : Prop :=
  ∃ threshold surplus name rest,
    grammar.readLeniently (.given .info) arguments = .ok (threshold, surplus, name :: rest) ∧
    (name = "send" ∨ name = "recv")

section Choosing

variable {arguments rest operands : List String} {invocation : Invocation}
  {threshold : Entry Severity} {surplus : Bool}

/-- What is understood before surplus arguments are noticed is understood the same way after. -/
theorem eq_ok_of_finishes {commands : Except Stop Invocation}
    (finishes : (commands >>= fun found => if surplus then throw .usage else return found) =
      .ok invocation) : commands = .ok invocation := by
  obtain ⟨found, chosen, finishes⟩ := bind_eq_ok.mp finishes
  split at finishes
  · cases finishes
  · exact Except.ok.inj finishes ▸ chosen

/-- The arguments of a command make the command, which is refused when the severity is left
blank. -/
theorem exists_command_of_ofCommand {grammar : Grammar Options}
    {command? : Options → List String → Option Command}
    (commands : ofCommand threshold grammar command? rest = .ok invocation) :
    ∃ options operands command,
      grammar.read .standard rest = .ok (options, operands) ∧
      command? options operands = some command ∧
      (invocation.command = command ∨ invocation.command = .refuse (.blank .severity)) := by
  obtain ⟨⟨options, operands⟩, fits, chooses⟩ := bind_eq_ok.mp commands
  refine ⟨options, operands, ?_⟩
  dsimp only at chooses
  split at chooses
  · rename_i command _ receives
    obtain rfl := Except.ok.inj chooses
    exact ⟨command, fits, receives, .inl rfl⟩
  · rename_i command receives
    obtain rfl := Except.ok.inj chooses
    exact ⟨command, fits, receives, .inr rfl⟩
  · cases chooses

/-- What is behind the command to send makes a command, which is refused when the severity is left
blank. -/
theorem exists_sendCommand
    (reads : grammar.readLeniently (.given .info) arguments =
      .ok (threshold, surplus, "send" :: rest))
    (understood : ofArguments arguments = .ok invocation) :
    ∃ options operands command,
      Options.sendGrammar.read .standard rest = .ok (options, operands) ∧
      options.send? operands = some command ∧
      (invocation.command = command ∨ invocation.command = .refuse (.blank .severity)) := by
  obtain ⟨_, same, finishes⟩ := bind_eq_ok.mp understood
  obtain rfl := Except.ok.inj (same.symm.trans reads)
  exact exists_command_of_ofCommand (eq_ok_of_finishes finishes)

/-- What is behind the command to receive makes a command, which is refused when the severity is
left blank. -/
theorem exists_command
    (reads : grammar.readLeniently (.given .info) arguments =
      .ok (threshold, surplus, "recv" :: rest))
    (understood : ofArguments arguments = .ok invocation) :
    ∃ options operands command,
      Options.receiveGrammar.read .standard rest = .ok (options, operands) ∧
      options.receive? operands = some command ∧
      (invocation.command = command ∨ invocation.command = .refuse (.blank .severity)) := by
  obtain ⟨_, same, finishes⟩ := bind_eq_ok.mp understood
  obtain rfl := Except.ok.inj (same.symm.trans reads)
  exact exists_command_of_ofCommand (eq_ok_of_finishes finishes)

/-- A command line that asks to send or to receive needs a port. -/
theorem needsPort_of_asksForPort (understood : ofArguments arguments = .ok invocation)
    (asks : AsksForPort arguments) : invocation.command.NeedsPort := by
  obtain ⟨threshold, surplus, name, rest, reads, rfl | rfl⟩ := asks
  · obtain ⟨options, operands, command, -, sends, same | same⟩ :=
      exists_sendCommand reads understood
    · unfold Options.send? at sends
      split at sends
      · obtain rfl := Option.some.inj sends
        rw [same]
        trivial
      · cases sends
    · rw [same]
      trivial
  · obtain ⟨options, operands, command, -, receives, same | same⟩ :=
      exists_command reads understood
    · unfold Options.receive? at receives
      split at receives
      · split at receives
        · obtain rfl := Option.some.inj receives
          rw [same]
          trivial
        · cases receives
      · cases receives
    · rw [same]
      trivial

end Choosing

section Receiving

variable {arguments rest : List String} {invocation : Invocation} {options : Options}
  {port : String} {threshold : Entry Severity} {surplus : Bool}

/-- A command line that is understood and has the command to receive asks to receive. -/
theorem exists_asks
    (reads : grammar.readLeniently (.given .info) arguments =
      .ok (threshold, surplus, "recv" :: rest))
    (understood : ofArguments arguments = .ok invocation) :
    ∃ options port, Asks arguments options port := by
  obtain ⟨options, operands, command, fits, receives, -⟩ := exists_command reads understood
  unfold Options.receive? at receives
  split at receives
  · exact ⟨options, _, threshold, surplus, rest, reads, fits⟩
  · cases receives

theorem command_of_asks (understood : ofArguments arguments = .ok invocation)
    (asks : Asks arguments options port) :
    (∃ output capacity, options.output = some output ∧ options.capacity = some capacity ∧
      invocation.command = .receive (options.connection port)
        { output := output
          capacity := capacity.value?.getD 0
          expectedLength := options.expectedLength
          mode := options.mode
          confirmEot := options.confirmEot
          repeated := options.bootLoop }) ∨
      invocation.command = .refuse (.blank .severity) := by
  obtain ⟨threshold, surplus, rest, reads, fits⟩ := asks
  obtain ⟨others, operands, command, same, receives, commands⟩ := exists_command reads understood
  obtain ⟨rfl, rfl⟩ := Prod.mk.inj (Except.ok.inj (same.symm.trans fits))
  refine commands.imp_left fun commands => ?_
  simp only [Options.receive?] at receives
  split at receives
  · rename_i output capacity has_output has_capacity
    refine ⟨output, capacity, has_output, has_capacity, commands.trans ?_⟩
    exact (Option.some.inj receives).symm
  · cases receives

end Receiving
end Invocation

end Xmodem.CommandLine
