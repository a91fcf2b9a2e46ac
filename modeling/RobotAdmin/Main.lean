import RobotAdmin.Http.Wire
import RobotAdmin.Program.Run
import Std.Async.DNS
import Std.Async.TCP
import Std.Async.Timer

namespace RobotAdmin.Main

open Std.Async

private partial def receive (connection : TCP.Socket.Client) (bytes : ByteArray) : Async ByteArray := do
  match ← connection.recv? 65536 with
  | none => return bytes
  | some more => receive connection (bytes ++ more)

/-- Sends a request over a connection of its own and waits for the response. -/
private def talk (request : Http.Request) : Async (Option Http.Response) := do
  let host := ((request.url.host.getD "").replace "[" "").replace "]" ""
  let port := (request.url.effectivePort.getD 80).toUInt16
  let some address := (← DNS.getAddrInfo host (toString port))[0]? | return none
  let connection ← TCP.Socket.Client.mk
  connection.connect <| match address with
    | .v4 address => .v4 ⟨address, port⟩
    | .v6 address => .v6 ⟨address, port⟩
  connection.send ⟨request.wireBytes.toArray⟩
  return Http.Response.ofWire? (← receive connection .empty).data.toList

/-- What comes back for a request up to a time of the clock, if anything does. -/
private def answer (deadline : Nat) (request : Http.Request) : IO (Option Http.Response) := do
  let left := deadline - (← IO.monoMsNow)
  let pause : Async (Option Http.Response) := do
    sleep (.ofNat left)
    return none
  try (Async.race (talk request) pause).block catch _ => return none

/-- Runs the program anew with each answer, until it sends no request that is not answered. The timeout of the
    client that sends them is for all of them together. -/
private def converse (start : Nat) (run : Http.Network → Program.Ending) :
    (room : Nat) → List (Option Http.Response) → IO Program.Ending
  | 0, answers => return run { answers }
  | room + 1, answers => do
    let ending := run { answers }
    match ending.client?, ending.network.requests[answers.length]? with
    | some client, some request =>
      let deadline := start + 1000 * client.timeoutSecs.toNat
      converse start run room (answers ++ [← answer deadline request])
    | _, _ => return ending

/-- The locations on the way to a location, the root left out. -/
private def ancestors : Location → List Location
  | [] => []
  | name :: above => ancestors above ++ [name :: above]

private def pathText (location : Location) : String := (Path.ofComponents true location).text

/-- The entries on the way to the given locations as they are on disk. -/
private def look (locations : List Location) : IO (List (Location × FileSystem.Entry)) := do
  let here ← IO.currentDir
  let entries ← locations.mapM fun location => do
    let path := here / pathText location
    if ← path.isDir then return [(location, FileSystem.Entry.directory)]
    else if ← path.pathExists then
      return [(location, .file (← IO.FS.readBinFile path).data.toList)]
    else return []
  return entries.flatten

/-- Carries over to the disk what has changed at a location. -/
private def update (before after : FileSystem) (location : Location) : IO Unit := do
  if before.get? location == after.get? location then return
  match after.get? location with
  | some .directory => IO.FS.createDir (pathText location)
  | some (.file bytes) => IO.FS.writeBinFile (pathText location) ⟨bytes.toArray⟩
  | none => IO.FS.removeFile (pathText location)

private def readEnvironment : IO Environment := do
  let names := ["HOME", "XDG_CONFIG_HOME", Settings.serverVariable, Settings.timeoutVariable]
  let bindings ← names.mapM fun name => do
    return (← IO.getEnv name).toList.map fun value => (name, Utf8.encode value)
  return ⟨bindings.flatten⟩

private def locationOf (workingDirectory : Location) (path : Path) : Location :=
  path.components ++ if path.isAbsolute then [] else workingDirectory

/-- Runs the program on the files, the variables and the network of the machine. -/
def run (arguments : List String) : IO UInt32 := do
  let environment ← readEnvironment
  let workingDirectory := locationOf [] (Path.ofText (← IO.currentDir).toString)
  let settings := environment.settingsPath?.elim [] (locationOf workingDirectory)
  let locations := (ancestors workingDirectory ++ ancestors settings).eraseDups
  let files : FileSystem := { entries := ← look locations, workingDirectory }
  let words := arguments.map Utf8.encode
  let start ← IO.monoMsNow
  let ending ← converse start (Program.run words environment files) (Http.maxRedirects + 1) []
  locations.forM (update files ending.files)
  ending.log.forM fun event => IO.eprintln (event.level.name ++ " " ++ event.text)
  IO.print ending.output
  IO.eprint ending.complaint
  return ending.exitCode.toUInt32

end RobotAdmin.Main

def main (arguments : List String) : IO UInt32 :=
  RobotAdmin.Main.run arguments
