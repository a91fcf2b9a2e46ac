import RobotAdmin.Text.Utf8

namespace RobotAdmin

/-- A path in the file system: any bytes, with slashes between the names. -/
structure Path where
  bytes : List UInt8
  deriving DecidableEq, Repr

namespace Path

/-- The name of a file or directory within the directory that holds it. -/
abbrev Name := List UInt8

def slash : UInt8 := '/'.toUInt8

/-- The name that stands for the directory itself. -/
def dot : Name := ['.'.toUInt8]

/-- The name that stands for the directory above. -/
def dotDot : Name := ['.'.toUInt8, '.'.toUInt8]

def ofText (text : String) : Path := ⟨Utf8.encode text⟩

/-- A path as it is shown to a user. -/
def text (path : Path) : String := Utf8.decodeLossy path.bytes

def isAbsolute (path : Path) : Bool := path.bytes.head? == some slash

def endsInSlash (path : Path) : Bool := path.bytes.getLast? == some slash

/-- The names along a path. Any number of slashes stands between two of them. -/
def names (path : Path) : List Name :=
  (List.splitOn slash path.bytes).filter fun name => !name.isEmpty

/-- The path of an entry of a directory. -/
def join (path : Path) (name : Name) : Path :=
  if path.bytes.isEmpty || path.endsInSlash then ⟨path.bytes ++ name⟩
  else ⟨path.bytes ++ slash :: name⟩

/-- The names along a path without those that lead nowhere, the last name first. A dot at the very
    start of a relative path is kept: it tells the working directory apart from no path at all. -/
def components (path : Path) : List Name :=
  match path.names with
  | [] => []
  | first :: rest =>
    (rest.filter (· != dot)).reverse ++ (if path.isAbsolute && first == dot then [] else [first])

/-- The path along the given names, the last name first. -/
def ofComponents (absolute : Bool) (components : List Name) : Path :=
  ⟨(if absolute then [slash] else []) ++ [slash].intercalate components.reverse⟩

end Path

end RobotAdmin
