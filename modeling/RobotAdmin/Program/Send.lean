import RobotAdmin.Client.Delivery
import RobotAdmin.Settings

namespace RobotAdmin.Program

/-- A run that sends a command: whether it succeeded, what it printed and logged, and the client that sent it
    and the network after it. -/
structure Sending where
  result : Except Fault Unit
  output : String
  log : Log
  client : Client
  network : Http.Network

/-- A confirmation as it is printed: the reply as JSON, or its message with a check mark. -/
def confirmationText (json : Bool) (reply : Reply) : String :=
  if json then reply.pretty ++ "\n" else "✓ " ++ reply.message.getD "OK" ++ "\n"

/-- The client of a run that goes by the given settings. -/
def clientOf (settings : Settings) : Client := Client.ofServer settings.server settings.timeoutSecs

/-- The event that tells which command goes to which server. -/
def sendingEvent (client : Client) (command : Command) : Log.Event :=
  ⟨.info, "Sending '" ++ command.name ++ "' to " ++ client.base⟩

/-- Sends one command with the given settings. It has failed unless it was confirmed and no order of the
    client failed. -/
def send (settings : Settings) (command : Command) (json : Bool) (network : Http.Network) : Sending :=
  let client := clientOf settings
  let (delivery, after, network) := Dispatch.ask Client.deliver command (client, network)
  { result :=
      if delivery.confirmations.isEmpty || 0 < after.failures then .error (.commandFailed command) else .ok ()
    output := String.join (delivery.confirmations.map (confirmationText json))
    log := sendingEvent client command :: delivery.log
    client := after
    network }

end RobotAdmin.Program
