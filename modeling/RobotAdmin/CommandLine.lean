import RobotAdmin.Program.Configure

namespace RobotAdmin

/-- What a command line asks for. Settings without an action are shown. -/
inductive CommandLine.Task where
  | send (command : Command)
  | configure (action : Option SettingsAction)
  deriving DecidableEq, Repr

/-- A command line that has been understood. -/
structure CommandLine where
  server : Option String := none
  timeout : Option UInt64 := none
  verbose : Bool := false
  json : Bool := false
  task : CommandLine.Task
  deriving DecidableEq, Repr

namespace CommandLine

/-- The settings that a command line overrides. -/
def overrides (line : CommandLine) : Overrides := ⟨line.server, line.timeout⟩

/-- The options of the program. -/
inductive Switch where
  | server
  | timeout
  | verbose
  | json
  | help
  | version
  deriving DecidableEq, Repr

namespace Switch

def name : Switch → String
  | .server => "server"
  | .timeout => "timeout"
  | .verbose => "verbose"
  | .json => "json"
  | .help => "help"
  | .version => "version"

def letter? : Switch → Option Char
  | .server => some 's'
  | .timeout => some 't'
  | .verbose => some 'v'
  | .json => none
  | .help => some 'h'
  | .version => some 'V'

/-- The placeholder for the value of an option that takes one. -/
def placeholder? : Switch → Option String
  | .server => some "<SERVER>"
  | .timeout => some "<TIMEOUT>"
  | _ => none

def takesValue (switch : Switch) : Bool := switch.placeholder?.isSome

def about : Switch → String
  | .server => "Server base URL (e.g., http://localhost:1999)"
  | .timeout => "Request timeout in seconds"
  | .verbose => "Enable verbose logging"
  | .json => "Print the full server reply as JSON"
  | .help => "Print help"
  | .version => "Print version"

/-- An option with its value, as it is told to a user. -/
def text (switch : Switch) : String :=
  "--" ++ switch.name ++ switch.placeholder?.elim "" (" " ++ ·)

end Switch

end CommandLine

end RobotAdmin
