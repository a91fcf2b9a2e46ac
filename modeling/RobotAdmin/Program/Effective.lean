import RobotAdmin.Environment
import RobotAdmin.Settings.File

namespace RobotAdmin.Program

/-- The path of the settings file, without which nothing can be done. -/
def settingsPath (environment : Environment) : Except Fault Path :=
  match environment.settingsPath? with
  | none => .error .noSettingsDirectory
  | some path => .ok path

/-- The stored settings. -/
def storedSettings (environment : Environment) (files : FileSystem) : Except Fault Settings :=
  match settingsPath environment with
  | .error fault => .error fault
  | .ok path => Settings.load files path

/-- The settings that a run goes by: the stored ones under the variables and overrides of the run. -/
def effectiveSettings (environment : Environment) (overrides : Overrides) (files : FileSystem) :
    Except Fault Settings :=
  match storedSettings environment files with
  | .error fault => .error fault
  | .ok stored => stored.resolve environment.setting? overrides

end RobotAdmin.Program
