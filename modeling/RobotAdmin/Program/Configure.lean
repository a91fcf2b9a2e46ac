import RobotAdmin.Program.Effective

namespace RobotAdmin

/-- What can be done with the settings. -/
inductive SettingsAction where
  | view
  | setServer (url : String)
  | setTimeout (secs : UInt64)
  | reset
  deriving DecidableEq, Repr

namespace Program

/-- The settings in effect as they are shown. -/
def viewText (path : Path) (settings : Settings) : String :=
  "Client Configuration:\n" ++
    "  File:    " ++ path.text ++ "\n" ++
    "  Server:  " ++ settings.server ++ "\n" ++
    "  Timeout: " ++ toString settings.timeoutSecs ++ " s\n"

/-- Stores settings and says so. -/
def store (path : Path) (settings : Settings) (text : String) (files : FileSystem) :
    Except Fault String × FileSystem :=
  match settings.save files path with
  | (.error fault, made) => (.error fault, made)
  | (.ok (), saved) => (.ok text, saved)

/-- Changes the server that is stored at a path. It is stored in normal form, which must not be empty. -/
def setServer (path : Path) (url : String) (files : FileSystem) : Except Fault String × FileSystem :=
  match Settings.load files path with
  | .error fault => (.error fault, files)
  | .ok stored =>
    match Settings.resolve { stored with server := url } (fun _ => none) {} with
    | .error fault => (.error fault, files)
    | .ok settings => store path settings ("Server set to: " ++ settings.server ++ "\n") files

/-- Changes the timeout that is stored at a path. -/
def setTimeout (path : Path) (secs : UInt64) (files : FileSystem) : Except Fault String × FileSystem :=
  match Settings.load files path with
  | .error fault => (.error fault, files)
  | .ok stored =>
    store path { stored with timeoutSecs := secs } ("Timeout set to: " ++ toString secs ++ " s\n") files

/-- Goes back to the default settings. -/
def reset (path : Path) (files : FileSystem) : Except Fault String × FileSystem :=
  match Settings.reset files path with
  | .error fault => (.error fault, files)
  | .ok removed => (.ok "Configuration reset to defaults\n", removed)

/-- Carries out an action on the settings; the result is the text for the user. Variables and overrides
    count for what is shown but never for what is stored. -/
def configure (environment : Environment) (overrides : Overrides) (action : SettingsAction)
    (files : FileSystem) : Except Fault String × FileSystem :=
  match settingsPath environment with
  | .error fault => (.error fault, files)
  | .ok path =>
    match action with
    | .view => ((effectiveSettings environment overrides files).map (viewText path), files)
    | .setServer url => setServer path url files
    | .setTimeout secs => setTimeout path secs files
    | .reset => reset path files

end Program

end RobotAdmin
