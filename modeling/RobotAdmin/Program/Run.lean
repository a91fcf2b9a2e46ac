import RobotAdmin.CommandLine.Parse
import RobotAdmin.Program.Send

namespace RobotAdmin.Program

/-- How a run of the program ended: its exit code, what it printed, what it told about a failure, which events
    it logged, and what is there after it. Only a run that sends a command has a client. -/
structure Ending where
  exitCode : Nat
  output : String := ""
  complaint : String := ""
  events : Log := []
  client? : Option Client := none
  files : FileSystem
  network : Http.Network

/-- The log as a terminal gets it. -/
def Ending.log (ending : Ending) : Log := ending.events.map Log.Event.written

/-- The ending of a run that did its task or had to give up. -/
def Ending.ofResult (result : Except Fault Unit) (output : String) (files : FileSystem) (network : Http.Network) :
    Ending :=
  match result with
  | .ok () => { exitCode := 0, output, files, network }
  | .error fault => { exitCode := 1, output, complaint := fault.report, files, network }

/-- Carries out what a command line asks for. -/
def perform (line : CommandLine) (environment : Environment) (files : FileSystem) (network : Http.Network) :
    Ending :=
  match line.task with
  | .send command =>
    match effectiveSettings environment line.overrides files with
    | .error fault => .ofResult (.error fault) "" files network
    | .ok settings =>
      let sending := send settings command line.json network
      { Ending.ofResult sending.result sending.output files sending.network with
        events := sending.log.shown line.verbose
        client? := some sending.client }
  | .configure action =>
    match configure environment line.overrides (action.getD .view) files with
    | (.error fault, changed) => .ofResult (.error fault) "" changed network
    | (.ok output, changed) => .ofResult (.ok ()) output changed network

/-- Runs the program with the words of its command line. -/
def run (words : List CommandLine.Word) (environment : Environment) (files : FileSystem)
    (network : Http.Network) : Ending :=
  match CommandLine.parse words with
  | .ok line => perform line environment files network
  | .error stop =>
    if stop.isAnswer then { exitCode := stop.exitCode, output := stop.text, files, network }
    else { exitCode := stop.exitCode, complaint := stop.text, files, network }

end RobotAdmin.Program
