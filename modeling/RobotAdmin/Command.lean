import RobotAdmin.Json.Writer

namespace RobotAdmin

/-- An administrative command to the robot server. -/
inductive Command where
  | updateFirmware
  | setToken (token : String)
  | setRobot (robot : String)
  deriving DecidableEq, Repr

namespace Command

/-- The name that tells the commands apart. -/
def name : Command → String
  | .updateFirmware => "updateFirmware"
  | .setToken _ => "setToken"
  | .setRobot _ => "setRobot"

def names : List String := ["updateFirmware", "setToken", "setRobot"]

/-- The label under which a request appears in the log. The operand stands there as it is. -/
def description : Command → String
  | .updateFirmware => "update firmware"
  | .setToken token => "set token '" ++ token ++ "'"
  | .setRobot robot => "set robot '" ++ robot ++ "'"

/-- The operand with the name of its member, for a command that has one. -/
def operand? : Command → Option (String × String)
  | .updateFirmware => none
  | .setToken token => some ("token", token)
  | .setRobot robot => some ("robot", robot)

/-- The flat view of a command, sorted by name: its name under `cmd`, and its operand. -/
def payload (command : Command) : List (String × String) :=
  let named := Json.putMember "cmd" command.name []
  match command with
  | .updateFirmware => named
  | .setToken token => Json.putMember "token" token named
  | .setRobot robot => Json.putMember "robot" robot named

/-- The kind of a command as its declaration calls it. -/
def kind : Command → String
  | .updateFirmware => "UpdateFirmware"
  | .setToken _ => "SetToken"
  | .setRobot _ => "SetRobot"

/-- A name with its initial made small. -/
def camelCase (name : String) : String :=
  match name.toList with
  | [] => ""
  | initial :: rest => String.ofList (initial.toLower :: rest)

/-- The message of a command, a flat object of strings: its kind under `cmd`, then its operand. -/
def toJson (command : Command) : Json :=
  .object (("cmd", .text (camelCase command.kind)) ::
    command.operand?.toList.map fun (name, value) => (name, .text value))

/-- The text that is sent to the server. -/
def wire (command : Command) : String :=
  command.toJson.compact

end Command

end RobotAdmin
