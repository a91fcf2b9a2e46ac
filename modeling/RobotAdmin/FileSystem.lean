import RobotAdmin.FileSystem.Path

namespace RobotAdmin

/-- Where an entry is: its name and the names of the directories above it, its own name first. The root
    has no name. -/
abbrev Location := List Path.Name

inductive FileSystem.Entry where
  | file (bytes : List UInt8)
  | directory
  deriving DecidableEq, Repr

/-- The files and directories that a program can see, and the directory in which relative paths begin.
    The root is a directory without being listed. There are only plain files and directories: no permissions, by
    which an operation could be refused, and no links or special files. -/
structure FileSystem where
  entries : List (Location × FileSystem.Entry) := []
  workingDirectory : Location := []
  deriving DecidableEq, Repr

/-- Why the system refuses an operation on a path. -/
inductive FileError where
  | notFound
  | alreadyExists
  | notDirectory
  | isDirectory
  | nameTooLong
  | zeroByte
  | notUtf8
  deriving DecidableEq, Repr

def FileError.message : FileError → String
  | .notFound => "No such file or directory (os error 2)"
  | .alreadyExists => "File exists (os error 17)"
  | .notDirectory => "Not a directory (os error 20)"
  | .isDirectory => "Is a directory (os error 21)"
  | .nameTooLong => "File name too long (os error 36)"
  | .zeroByte => "file name contained an unexpected NUL byte"
  | .notUtf8 => "stream did not contain valid UTF-8"

namespace FileSystem

def get? (files : FileSystem) (location : Location) : Option Entry :=
  if location = [] then some .directory else files.entries.lookup location

/-- Puts an entry in place of what is at the location. -/
def put (files : FileSystem) (location : Location) (entry : Entry) : FileSystem :=
  { files with entries := (location, entry) :: files.entries.filter (·.1 != location) }

def erase (files : FileSystem) (location : Location) : FileSystem :=
  { files with entries := files.entries.filter (·.1 != location) }

private theorem lookup_filter_ne {entries : List (Location × Entry)} {a b : Location} (hne : a ≠ b) :
    (entries.filter (·.1 != b)).lookup a = entries.lookup a := by
  induction entries with
  | nil => rfl
  | cons entry rest ih =>
    obtain ⟨location, entry⟩ := entry
    by_cases hb : location = b
    · have ha : (a == location) = false := by simpa [hb] using hne
      rw [List.filter_cons, if_neg (by simpa using hb), List.lookup_cons, ha, ih]
    · have hkeep : (location != b) = true := by simpa using hb
      rw [List.filter_cons, if_pos hkeep, List.lookup_cons, List.lookup_cons, ih]

theorem lookup_filter_self {entries : List (Location × Entry)} {a : Location} :
    (entries.filter (·.1 != a)).lookup a = none := by
  simp only [List.lookup_eq_none_iff, List.mem_filter, bne_iff_ne]
  exact fun entry hentry => hentry.2.symm

@[simp]
theorem get?_put_self {files : FileSystem} {location : Location} {entry : Entry} (hne : location ≠ []) :
    (files.put location entry).get? location = some entry := by
  simp [get?, put, hne]

theorem get?_put_of_ne {files : FileSystem} {location other : Location} {entry : Entry}
    (hne : other ≠ location) : (files.put location entry).get? other = files.get? other := by
  have h : (other == location) = false := by simpa using hne
  simp [get?, put, List.lookup_cons, h, lookup_filter_ne hne]

@[simp]
theorem get?_erase_self {files : FileSystem} {location : Location} (hne : location ≠ []) :
    (files.erase location).get? location = none := by
  simp [get?, erase, hne, lookup_filter_self]

theorem get?_erase_of_ne {files : FileSystem} {location other : Location} (hne : other ≠ location) :
    (files.erase location).get? other = files.get? other := by
  simp [get?, erase, lookup_filter_ne hne]

end FileSystem

end RobotAdmin
