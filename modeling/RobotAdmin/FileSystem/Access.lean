import RobotAdmin.FileSystem.Target

namespace RobotAdmin.FileSystem

def read (files : FileSystem) (path : Path) : Except FileError (List UInt8) :=
  match files.find path with
  | .error fault => .error fault
  | .ok .directory => .error .isDirectory
  | .ok (.file bytes) => .ok bytes

/-- Writes a file, in place of what it held before. -/
def write (files : FileSystem) (path : Path) (bytes : List UInt8) : Except FileError FileSystem :=
  match files.target path with
  | .error fault => .error fault
  | .ok (.directory _) => .error .isDirectory
  | .ok (.entry parent name) =>
    if path.endsInSlash || files.get? (name :: parent) = some .directory then .error .isDirectory
    else .ok (files.put (name :: parent) (.file bytes))

def remove (files : FileSystem) (path : Path) : Except FileError FileSystem :=
  match files.target path with
  | .error fault => .error fault
  | .ok (.directory _) => .error .isDirectory
  | .ok (.entry parent name) =>
    match files.get? (name :: parent) with
    | none => .error .notFound
    | some .directory => .error .isDirectory
    | some (.file _) =>
      if path.endsInSlash then .error .notDirectory else .ok (files.erase (name :: parent))

def makeDirectory (files : FileSystem) (path : Path) : Except FileError FileSystem :=
  match files.target path with
  | .error fault => .error fault
  | .ok (.directory _) => .error .alreadyExists
  | .ok (.entry parent name) =>
    if (files.get? (name :: parent)).isSome then .error .alreadyExists
    else .ok (files.put (name :: parent) .directory)

/-- Makes a directory unless it is there already. -/
def ensureDirectory (files : FileSystem) (path : Path) : Except FileError FileSystem :=
  match files.makeDirectory path with
  | .ok made => .ok made
  | .error fault => if files.isDirectory path then .ok files else .error fault

/-- Makes a directory, given by the names along its path with the last name first, and before it those
    above it that are missing. Directories that were made stay if a later one fails. -/
def ensureDirectories (files : FileSystem) (absolute : Bool) :
    List Path.Name → Except FileError Unit × FileSystem
  | [] => (.ok (), files)
  | name :: above =>
    let path := Path.ofComponents absolute (name :: above)
    match files.ensureDirectory path with
    | .ok made => (.ok (), made)
    | .error .notFound =>
      match files.ensureDirectories absolute above with
      | (.error fault, made) => (.error fault, made)
      | (.ok (), made) =>
        match made.ensureDirectory path with
        | .ok made => (.ok (), made)
        | .error fault => (.error fault, made)
    | .error fault => (.error fault, files)

/-- Makes the directories above the entry that a path names. -/
def ensureParent (files : FileSystem) (path : Path) : Except FileError Unit × FileSystem :=
  files.ensureDirectories path.isAbsolute path.components.tail

end RobotAdmin.FileSystem
