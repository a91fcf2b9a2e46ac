import Mathlib.Control.Monad.Basic
import RobotAdmin.Proofs.Program.Sending

namespace RobotAdmin

namespace Program

/-- What a run shows of its log has an error exactly if what came of the command is one. -/
theorem errors_shown_departureLog (settings : Settings) (command : Command) (outcome : Log.Event)
    (verbose : Bool) :
    Log.errors (Log.shown verbose (departureLog settings command ++ [outcome])) =
      if outcome.level = .error then [outcome] else [] := by
  obtain ⟨level, text⟩ := outcome
  cases verbose <;> cases level <;>
    simp [Log.errors, Log.shown, departureLog, sendingEvent, Command.announcement, Client.departure]

theorem report_commandFailed (command : Command) :
    (Fault.commandFailed command).report = "Error: Command failed: " ++ command.description ++ "\n" := by
  have hstart : "Error: " ++ "Command failed: " = "Error: Command failed: " := by decide +kernel
  have hchain : (Fault.commandFailed command).chain = ["Command failed: " ++ command.description] := rfl
  rw [Fault.report, hchain, String.intercalate_singleton, ← String.append_assoc, hstart]

variable {words : List CommandLine.Word} {line : CommandLine} {command : Command}

theorem run_of_fault {environment : Environment} {files : FileSystem} {fault : Fault}
    (hparse : CommandLine.parse words = .ok line) (htask : line.task = .send command)
    (hsettings : effectiveSettings environment line.overrides files = .error fault) (network : Http.Network) :
    run words environment files network =
      { exitCode := 1, complaint := fault.report, files, network } := by
  simp only [run, hparse, perform_send_of_fault htask hsettings, Ending.ofResult]

theorem run_of_confirmed {environment : Environment} {files : FileSystem} {settings : Settings}
    {network after : Http.Network} {reply : Reply}
    (hparse : CommandLine.parse words = .ok line) (htask : line.task = .send command)
    (hsettings : effectiveSettings environment line.overrides files = .ok settings)
    (hpost : (clientOf settings).post adminRoute command network = (.ok reply, after)) :
    run words environment files network =
      { exitCode := 0
        output := confirmationText line.json reply
        events := Log.shown line.verbose (departureLog settings command ++
          [⟨.debug, command.description ++ ": " ++ reply.shown⟩])
        client? := some (clientOf settings)
        files
        network := after } := by
  simp only [run, hparse, perform_send htask hsettings, send_of_confirmed hpost, Ending.ofResult]

theorem run_of_failed {environment : Environment} {files : FileSystem} {settings : Settings}
    {network after : Http.Network} {fault : PostFault}
    (hparse : CommandLine.parse words = .ok line) (htask : line.task = .send command)
    (hsettings : effectiveSettings environment line.overrides files = .ok settings)
    (hpost : (clientOf settings).post adminRoute command network = (.error fault, after)) :
    run words environment files network =
      { exitCode := 1
        complaint := (Fault.commandFailed command).report
        events := Log.shown line.verbose (departureLog settings command ++
          [⟨.error, command.description ++ " failed: " ++ fault.message⟩])
        client? := some { clientOf settings with failures := 1 }
        files
        network := after } := by
  simp only [run, hparse, perform_send htask hsettings, send_of_failed hpost, Ending.ofResult]

/-- The outcome of a run that sends a command. It succeeds exactly if there are settings to go by and the one
    post of the command by a client with these settings brings a confirmation, which alone is then printed. Without
    settings nothing is sent or logged; a failed post is the only error that is logged, and a terminal gets its
    text as it is unless there are characters in it that could steer the terminal. -/
theorem run_send_outcome (hparse : CommandLine.parse words = .ok line) (htask : line.task = .send command)
    (environment : Environment) (files : FileSystem) (network : Http.Network) :
    let ending := run words environment files network
    (ending.exitCode = 0 ↔
      ∃ settings reply after, effectiveSettings environment line.overrides files = .ok settings ∧
        Client.post { base := settings.server, timeoutSecs := settings.timeoutSecs } adminRoute command network =
          (.ok reply, after)) ∧
    match effectiveSettings environment line.overrides files with
    | .error fault =>
      ending = { exitCode := 1, output := "", complaint := fault.report, events := [], client? := none, files, network }
    | .ok settings =>
      let client : Client := { base := settings.server, timeoutSecs := settings.timeoutSecs }
      ending.files = files ∧
      match client.post adminRoute command network with
      | (.ok reply, after) =>
        ending.exitCode = 0 ∧
          ending.output =
            (if line.json then reply.pretty ++ "\n"
            else match reply.message with
              | some message => "✓ " ++ message ++ "\n"
              | none => "✓ OK\n") ∧
          ending.complaint = "" ∧
          ending.events.errors = [] ∧ ending.log.errors = [] ∧
          ending.client? = some client ∧ ending.network = after
      | (.error fault, after) =>
        let failure : Log.Event := ⟨.error, command.description ++ " failed: " ++ fault.message⟩
        ending.exitCode = 1 ∧
          ending.output = "" ∧
          ending.complaint = "Error: Command failed: " ++ command.description ++ "\n" ∧
          ending.events.errors = [failure] ∧ ending.log.errors = [failure.written] ∧
          (failure.IsPlain → failure.written = failure) ∧
          ending.client? = some { client with failures := 1 } ∧ ending.network = after := by
  intro ending
  cases hsettings : effectiveSettings environment line.overrides files with
  | error fault => simp [ending, run_of_fault hparse htask hsettings network]
  | ok settings =>
    have hclient := clientOf_of_effectiveSettings hsettings
    rcases hpost : (clientOf settings).post adminRoute command network with ⟨outcome, after⟩
    cases outcome with
    | error fault =>
      have hending : ending = _ := run_of_failed hparse htask hsettings hpost
      have herrors := errors_shown_departureLog settings command
        ⟨.error, command.description ++ " failed: " ++ fault.message⟩ line.verbose
      rw [hclient] at hpost hending
      dsimp only
      rw [hpost, hending]
      refine ⟨by simp [hpost], rfl, rfl, rfl, report_commandFailed command, herrors, ?_,
        Log.Event.written_of_isPlain, rfl, rfl⟩
      rw [Ending.log, Log.errors_map_written, herrors]
      rfl
    | ok reply =>
      have hending : ending = _ := run_of_confirmed hparse htask hsettings hpost
      have herrors := errors_shown_departureLog settings command
        ⟨.debug, command.description ++ ": " ++ reply.shown⟩ line.verbose
      rw [hclient] at hpost hending
      dsimp only
      rw [hpost, hending]
      refine ⟨by simp [hpost], rfl, rfl, ?_, rfl, herrors, ?_, rfl, rfl⟩
      · cases hmessage : reply.message <;> simp [confirmationText, hmessage]
      · rw [Ending.log, Log.errors_map_written, herrors]
        rfl

/-- A token is set with the server named by a flag, and the reply is asked for as JSON. -/
theorem run_setToken_exitCode :
    let words := ["set-token", "abc", "--server=http://h", "--json"].map Utf8.encode
    let line : CommandLine := { server := some "http://h", json := true, task := .send (.setToken "abc") }
    let environment : Environment := ⟨[("HOME", Utf8.encode "/home")]⟩
    let network : Http.Network :=
      { answers := [some { status := 200, body := Utf8.encode "\x7b\"rc\": \"ok\"\x7d" }] }
    CommandLine.parse words = .ok line ∧ line.task = .send (.setToken "abc") ∧
      (run words environment {} network).exitCode = 0 := by
  intro words line environment network
  have hparse : CommandLine.parse words = .ok line := by decide +kernel
  have hsettings : effectiveSettings environment line.overrides {} = .ok ⟨"http://h", 10⟩ := by decide +kernel
  have hconfirmed :
      ((clientOf ⟨"http://h", 10⟩).post adminRoute (.setToken "abc") network).1.isOk = true := by decide +kernel
  rcases hpost : (clientOf ⟨"http://h", 10⟩).post adminRoute (.setToken "abc") network with ⟨_ | reply, after⟩
  · rw [hpost] at hconfirmed
    cases hconfirmed
  · exact ⟨hparse, rfl, (run_send_outcome hparse rfl environment {} network).1.mpr
      ⟨_, reply, after, hsettings, hpost⟩⟩

end Program

end RobotAdmin
