import RobotAdmin.Command
import RobotAdmin.Log
import RobotAdmin.Reply
import RobotAdmin.Text.Quoted

namespace RobotAdmin

/-- The route of the server that takes commands. -/
def adminRoute : String := "/admin"

/-- A command to be sent, with the label that it has in the log. -/
structure Order where
  route : String
  command : Command
  description : String
  deriving DecidableEq, Repr

/-- What came of an order: the confirmations that whoever gave it was handed, and what was logged. -/
structure Delivery where
  confirmations : List Reply := []
  log : Log := []
  deriving Repr

namespace Command

def order (command : Command) : Order := ⟨adminRoute, command, command.description⟩

/-- The members of a command as they are shown in the log. -/
def shownPayload (command : Command) : String :=
  let member := fun (name, value) => Text.quoted name ++ ": " ++ Text.quoted value
  "\x7b" ++ ", ".intercalate (command.payload.map member) ++ "\x7d"

/-- The event that tells which command is about to be sent. -/
def announcement (command : Command) : Log.Event :=
  ⟨.debug, "dispatching " ++ command.name ++ ": " ++ command.shownPayload⟩

/-- Hands a command to a sender, which keeps a state of its own and deals with all failures itself. -/
def dispatch {σ : Type} (send : Order → σ → Delivery × σ) (command : Command) (state : σ) : Delivery × σ :=
  let (delivery, state) := send command.order state
  ({ delivery with log := command.announcement :: delivery.log }, state)

end Command

namespace Dispatch

variable {σ : Type} (send : Order → σ → Delivery × σ)

/-- Asks the server to update the robot firmware. -/
def updateFirmware (state : σ) : Delivery × σ := Command.updateFirmware.dispatch send state

/-- Sets the token with which the server is paired with a robot. -/
def setToken (token : String) (state : σ) : Delivery × σ := (Command.setToken token).dispatch send state

/-- Sets the type of robot that the server works for. -/
def setRobot (robot : String) (state : σ) : Delivery × σ := (Command.setRobot robot).dispatch send state

/-- Asks for what a command stands for. -/
def ask (command : Command) (state : σ) : Delivery × σ :=
  match command with
  | .updateFirmware => updateFirmware send state
  | .setToken token => setToken send token state
  | .setRobot robot => setRobot send robot state

theorem ask_eq (command : Command) (state : σ) : ask send command state = command.dispatch send state := by
  cases command <;> rfl

end Dispatch

end RobotAdmin
