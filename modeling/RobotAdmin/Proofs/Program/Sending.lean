import RobotAdmin.Program.Run
import RobotAdmin.Proofs.Client.Posting
import RobotAdmin.Proofs.Text.Cutting

namespace RobotAdmin.Program

theorem dropSlashes_server_of_resolve {stored settings : Settings} {lookup : String → Option String}
    {overrides : Overrides} (hsettings : stored.resolve lookup overrides = .ok settings) :
    Text.dropSlashes settings.server = settings.server := by
  unfold Settings.resolve at hsettings
  split at hsettings
  · cases hsettings
  · dsimp only at hsettings
    split at hsettings
    · cases hsettings
    · obtain rfl := Except.ok.inj hsettings
      exact Text.dropSlashes_dropSlashes _

/-- A run has a client with the settings in effect, whose server is taken as it is. -/
theorem clientOf_of_effectiveSettings {environment : Environment} {overrides : Overrides} {files : FileSystem}
    {settings : Settings} (hsettings : effectiveSettings environment overrides files = .ok settings) :
    clientOf settings = { base := settings.server, timeoutSecs := settings.timeoutSecs } := by
  rw [effectiveSettings] at hsettings
  split at hsettings
  · cases hsettings
  · rw [clientOf, Client.ofServer, dropSlashes_server_of_resolve hsettings]

/-- What a run logs before anything has come of its command. -/
def departureLog (settings : Settings) (command : Command) : Log :=
  [sendingEvent (clientOf settings) command, command.announcement, (clientOf settings).departure command.order]

theorem send_of_confirmed {settings : Settings} {command : Command} {network after : Http.Network}
    {reply : Reply} (hpost : (clientOf settings).post adminRoute command network = (.ok reply, after))
    (json : Bool) :
    send settings command json network =
      { result := .ok ()
        output := confirmationText json reply
        log := departureLog settings command ++ [⟨.debug, command.description ++ ": " ++ reply.shown⟩]
        client := clientOf settings
        network := after } := by
  have hdeliver : Client.deliver command.order (clientOf settings, network) = _ :=
    Client.deliver_of_confirmed hpost
  have hfailures : (clientOf settings).failures = 0 := rfl
  simp only [send, Dispatch.ask_eq, Command.dispatch, hdeliver, hfailures, departureLog]
  simp [String.join, Command.order]

theorem send_of_failed {settings : Settings} {command : Command} {network after : Http.Network}
    {fault : PostFault} (hpost : (clientOf settings).post adminRoute command network = (.error fault, after))
    (json : Bool) :
    send settings command json network =
      { result := .error (.commandFailed command)
        output := ""
        log := departureLog settings command ++
          [⟨.error, command.description ++ " failed: " ++ fault.message⟩]
        client := { clientOf settings with failures := 1 }
        network := after } := by
  have hdeliver : Client.deliver command.order (clientOf settings, network) = _ :=
    Client.deliver_of_failed hpost
  have hfailures : (clientOf settings).failures = 0 := rfl
  simp only [send, Dispatch.ask_eq, Command.dispatch, hdeliver, hfailures, departureLog]
  simp [String.join, Command.order]

theorem network_send (settings : Settings) (command : Command) (json : Bool) (network : Http.Network) :
    (send settings command json network).network =
      ((clientOf settings).post adminRoute command network).2 := by
  rcases hpost : (clientOf settings).post adminRoute command network with ⟨fault | reply, after⟩
  · rw [send_of_failed hpost]
  · rw [send_of_confirmed hpost]

theorem network_ofResult (result : Except Fault Unit) (output : String) (files : FileSystem)
    (network : Http.Network) : (Ending.ofResult result output files network).network = network := by
  cases result <;> rfl

section

variable {line : CommandLine} {command : Command} {environment : Environment} {files : FileSystem}

theorem perform_send_of_fault {fault : Fault} (htask : line.task = .send command)
    (hsettings : effectiveSettings environment line.overrides files = .error fault) (network : Http.Network) :
    perform line environment files network = .ofResult (.error fault) "" files network := by
  simp only [perform, htask, hsettings]

theorem perform_send {settings : Settings} (htask : line.task = .send command)
    (hsettings : effectiveSettings environment line.overrides files = .ok settings) (network : Http.Network) :
    perform line environment files network =
      let sending := send settings command line.json network
      { Ending.ofResult sending.result sending.output files sending.network with
        events := sending.log.shown line.verbose
        client? := some sending.client } := by
  simp only [perform, htask, hsettings]

end

end RobotAdmin.Program
