import RobotAdmin.FileSystem

namespace RobotAdmin.FileSystem

/-- What a path stands for before its last name is looked up: a directory that is reached for certain,
    or the place of an entry in such a directory, whether the entry is there or not. -/
inductive Target where
  | directory (location : Location)
  | entry (parent : Location) (name : Path.Name)
  deriving DecidableEq, Repr

def Target.location : Target → Location
  | .directory location => location
  | .entry parent name => name :: parent

def maxNameLength : Nat := 255

/-- The length of a path without the byte that ends it for the system. -/
def maxPathLength : Nat := 4095

/-- Takes one name from a place, which has to be a directory. -/
def step (files : FileSystem) (location : Location) (name : Path.Name) : Except FileError Target :=
  if files.get? location ≠ some .directory then .error .notDirectory
  else if name = Path.dot then .ok (.directory location)
  else if name = Path.dotDot then .ok (.directory location.tail)
  else if maxNameLength < name.length then .error .nameTooLong
  else .ok (.entry location name)

/-- Takes names in turn. All that they lead through has to be there. -/
def targetFrom (files : FileSystem) (location : Location) : List Path.Name → Except FileError Target
  | [] => .ok (.directory location)
  | name :: rest =>
    match files.step location name with
    | .error fault => .error fault
    | .ok target =>
      if rest.isEmpty then .ok target
      else if (files.get? target.location).isSome then files.targetFrom target.location rest
      else .error .notFound

def target (files : FileSystem) (path : Path) : Except FileError Target :=
  if path.bytes.contains 0 then .error .zeroByte
  else if path.bytes.isEmpty then .error .notFound
  else if maxPathLength < path.bytes.length then .error .nameTooLong
  else files.targetFrom (if path.isAbsolute then [] else files.workingDirectory) path.names

/-- Finds the entry that a path leads to. A slash at the end asks for a directory. -/
def find (files : FileSystem) (path : Path) : Except FileError Entry :=
  match files.target path with
  | .error fault => .error fault
  | .ok target =>
    match files.get? target.location with
    | none => .error .notFound
    | some (.file bytes) => if path.endsInSlash then .error .notDirectory else .ok (.file bytes)
    | some .directory => .ok .directory

/-- Whether a path leads anywhere. Every reason why it does not counts alike. -/
def contains (files : FileSystem) (path : Path) : Bool :=
  match files.find path with
  | .ok _ => true
  | .error _ => false

def isDirectory (files : FileSystem) (path : Path) : Bool :=
  match files.find path with
  | .ok .directory => true
  | _ => false

end RobotAdmin.FileSystem
