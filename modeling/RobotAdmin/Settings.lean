import RobotAdmin.Fault
import RobotAdmin.Text.Blank

namespace RobotAdmin

def defaultServer : String := "http://localhost:1999"

def defaultTimeoutSecs : UInt64 := 10

/-- The settings of the client: the base URL of the server and the seconds that a request may take. -/
structure Settings where
  server : String := defaultServer
  timeoutSecs : UInt64 := defaultTimeoutSecs
  deriving DecidableEq, Repr

/-- Settings given for one run of the program. -/
structure Overrides where
  server : Option String := none
  timeoutSecs : Option UInt64 := none
  deriving DecidableEq, Repr

namespace Settings

def serverVariable : String := "ROBERTA_SERVER"

def timeoutVariable : String := "ROBERTA_TIMEOUT_SECS"

/-- A server without the blanks around it and without the slashes at the end of what is left. -/
def normalizeServer (server : String) : String :=
  Text.dropSlashes (Text.trim server)

/-- The timeout that a variable holds, if it is set. Blanks around the number are ignored, but the fault
    tells the text as it is. -/
def variableTimeout (text : Option String) : Except Fault (Option UInt64) :=
  match text with
  | none => .ok none
  | some text =>
    match Numeral.ofText? (Text.trim text) with
    | .ok secs => .ok (some secs)
    | .error cause => .error (.timeoutNotNumber text cause)

/-- The settings in effect: overrides come before variables and variables before what is stored. A
    variable that is no number is a fault even where an override hides it. -/
def resolve (stored : Settings) (lookup : String → Option String) (overrides : Overrides) :
    Except Fault Settings :=
  match variableTimeout (lookup timeoutVariable) with
  | .error fault => .error fault
  | .ok timeout =>
    let server := normalizeServer (overrides.server.getD ((lookup serverVariable).getD stored.server))
    if server.isEmpty then .error .emptyServer
    else .ok ⟨server, overrides.timeoutSecs.getD (timeout.getD stored.timeoutSecs)⟩

end Settings

end RobotAdmin
