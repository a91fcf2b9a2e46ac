import RobotAdmin.Command
import RobotAdmin.FileSystem
import RobotAdmin.Json.Reader
import RobotAdmin.Text.Numeral

namespace RobotAdmin

/-- Why the program gives up. -/
inductive Fault where
  | timeoutNotNumber (text : String) (cause : NumeralFault)
  | emptyServer
  | noSettingsDirectory
  | unreadableFile (path : Path) (cause : FileError)
  | invalidFile (path : Path) (cause : Json.Refusal)
  | directoryNotMade (cause : FileError)
  | unwritableFile (path : Path) (cause : FileError)
  | unremovableFile (path : Path) (cause : FileError)
  | commandFailed (command : Command)
  deriving DecidableEq, Repr

namespace Fault

def message : Fault → String
  | .timeoutNotNumber text _ => "ROBERTA_TIMEOUT_SECS must be a number of seconds, got '" ++ text ++ "'"
  | .emptyServer => "Server URL must not be empty"
  | .noSettingsDirectory => "Could not determine config directory"
  | .unreadableFile path _ => "Failed to read config file " ++ path.text
  | .invalidFile path _ => "Invalid config file " ++ path.text
  | .directoryNotMade _ => "Failed to create config directory"
  | .unwritableFile path _ => "Failed to write config file " ++ path.text
  | .unremovableFile path _ => "Failed to remove config file " ++ path.text
  | .commandFailed command => "Command failed: " ++ command.description

/-- What lies behind a fault, where it is not the whole story itself. -/
def cause? : Fault → Option String
  | .timeoutNotNumber _ cause => some cause.message
  | .invalidFile _ cause => some cause.message
  | .unreadableFile _ cause | .directoryNotMade cause | .unwritableFile _ cause
  | .unremovableFile _ cause => some cause.message
  | .emptyServer | .noSettingsDirectory | .commandFailed _ => none

/-- The message of a fault and what lies behind it. -/
def chain (fault : Fault) : List String := fault.message :: fault.cause?.toList

/-- What a user is told when the program gives up. -/
def report (fault : Fault) : String :=
  "Error: " ++ "\n\nCaused by:\n    ".intercalate fault.chain ++ "\n"

end Fault

end RobotAdmin
