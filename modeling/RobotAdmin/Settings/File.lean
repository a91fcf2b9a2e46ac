import RobotAdmin.FileSystem.Access
import RobotAdmin.Settings.Decode

namespace RobotAdmin.Settings

/-- The text of a settings file. -/
def readFile (files : FileSystem) (path : Path) : Except FileError (List UInt8) :=
  match files.read path with
  | .error cause => .error cause
  | .ok bytes => if (Utf8.decode? bytes).isSome then .ok bytes else .error .notUtf8

/-- Loads the settings at a path. They are the default ones if the path leads nowhere, for whatever
    reason; a file that is there has to be readable. -/
def load (files : FileSystem) (path : Path) : Except Fault Settings :=
  if files.contains path then
    match readFile files path with
    | .error cause => .error (.unreadableFile path cause)
    | .ok bytes =>
      match decode bytes with
      | .error cause => .error (.invalidFile path cause)
      | .ok settings => .ok { settings with server := normalizeServer settings.server }
  else .ok {}

/-- Stores settings at a path and makes the directories above it. -/
def save (files : FileSystem) (path : Path) (settings : Settings) : Except Fault Unit × FileSystem :=
  match files.ensureParent path with
  | (.error cause, made) => (.error (.directoryNotMade cause), made)
  | (.ok (), made) =>
    match made.write path (Utf8.encode settings.stored) with
    | .error cause => (.error (.unwritableFile path cause), made)
    | .ok written => (.ok (), written)

/-- Removes the settings at a path, if there are any. -/
def reset (files : FileSystem) (path : Path) : Except Fault FileSystem :=
  if files.contains path then
    match files.remove path with
    | .error cause => .error (.unremovableFile path cause)
    | .ok removed => .ok removed
  else .ok files

end RobotAdmin.Settings
