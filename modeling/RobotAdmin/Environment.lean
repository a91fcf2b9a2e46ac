import RobotAdmin.FileSystem.Path

namespace RobotAdmin

/-- The environment variables of a process, whose values are any bytes. -/
structure Environment where
  bindings : List (String × List UInt8) := []
  deriving Repr

namespace Environment

def bytes? (environment : Environment) (name : String) : Option (List UInt8) :=
  environment.bindings.lookup name

/-- A setting of the program. A variable that is empty or no text counts as not set. -/
def setting? (environment : Environment) (name : String) : Option String :=
  ((environment.bytes? name).bind Utf8.decode?).filter fun value => !value.isEmpty

/-- The directory for the settings of programs: the one named for that purpose if its path is absolute,
    or one in the home directory. Where `HOME` is unset or empty there is no home directory: the user database,
    which may name one, is taken to have no entry for the user. -/
def settingsDirectory? (environment : Environment) : Option Path :=
  match ((environment.bytes? "XDG_CONFIG_HOME").map Path.mk).filter Path.isAbsolute with
  | some path => some path
  | none =>
    match environment.bytes? "HOME" with
    | none | some [] => none
    | some home => some (Path.join ⟨home⟩ (Utf8.encode ".config"))

/-- The path of the settings file. -/
def settingsPath? (environment : Environment) : Option Path :=
  environment.settingsDirectory?.map fun directory =>
    (directory.join (Utf8.encode "roberta-admin")).join (Utf8.encode "config.json")

end Environment

end RobotAdmin
