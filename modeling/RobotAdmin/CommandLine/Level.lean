import RobotAdmin.CommandLine

namespace RobotAdmin.CommandLine

/-- The levels of the command line: the program itself and its subcommands. -/
inductive Level where
  | program
  | updateFirmware
  | setToken
  | setRobot
  | config
  | help
  | configView
  | configSetServer
  | configSetTimeout
  | configReset
  | configHelp
  deriving DecidableEq, Repr

namespace Level

/-- The subcommands that lead to a level. -/
def words : Level → List String
  | .program => []
  | .updateFirmware => ["update-firmware"]
  | .setToken => ["set-token"]
  | .setRobot => ["set-robot"]
  | .config => ["config"]
  | .help => ["help"]
  | .configView => ["config", "show"]
  | .configSetServer => ["config", "set-server"]
  | .configSetTimeout => ["config", "set-timeout"]
  | .configReset => ["config", "reset"]
  | .configHelp => ["config", "help"]

def programName : String := "roberta-admin"

/-- The name by which a level is called. -/
def name (level : Level) : String := level.words.getLastD programName

def about : Level → String
  | .program => "Open Roberta server admin CLI"
  | .updateFirmware => "Ask the server to update the robot firmware"
  | .setToken => "Set the token used to pair the server with a robot"
  | .setRobot => "Set the robot type (e.g., ev3, nxt)"
  | .config => "Show or change stored client configuration"
  | .configView => "Show the effective configuration"
  | .configSetServer => "Store the default server URL"
  | .configSetTimeout => "Store the default request timeout"
  | .configReset => "Delete the stored configuration"
  | .help | .configHelp => "Print this message or the help of the given subcommand(s)"

/-- The subcommands of a level. -/
def children : Level → List Level
  | .program => [.updateFirmware, .setToken, .setRobot, .config, .help]
  | .config => [.configView, .configSetServer, .configSetTimeout, .configReset, .configHelp]
  | _ => []

/-- The operand of a level and what it is. -/
def operand? : Level → Option (String × String)
  | .setToken => some ("<TOKEN>", "Token shown on the robot")
  | .setRobot => some ("<ROBOT>", "Robot type name")
  | .configSetServer => some ("<URL>", "Server base URL")
  | .configSetTimeout => some ("<SECS>", "Timeout in seconds")
  | .help | .configHelp => some ("[COMMAND]...", "Print help for the subcommand(s)")
  | _ => none

def isHelp (level : Level) : Bool := level == .help || level == .configHelp

/-- The options that say how a command is run. -/
def runSwitches : List Switch := [.server, .timeout, .verbose, .json]

/-- The options of a level. All but the version are known everywhere. -/
def switches (level : Level) : List Switch :=
  if level.isHelp then [] else runSwitches ++ [.help] ++ (if level = .program then [.version] else [])

/-- The subcommand that a word names. -/
def child? (level : Level) (word : List UInt8) : Option Level :=
  level.children.find? fun child => Utf8.encode child.name == word

end Level

end RobotAdmin.CommandLine
