import RobotAdmin.Proofs.FileSystem.Entries
import RobotAdmin.Proofs.Settings.Stored
import RobotAdmin.Settings.File

namespace RobotAdmin.Settings

/-- Settings as they are after being stored and loaded. -/
def reread (settings : Settings) : Settings := { settings with server := normalizeServer settings.server }

theorem server_reread (settings : Settings) : settings.reread.server = normalizeServer settings.server := by
  rw [reread]

theorem timeoutSecs_reread (settings : Settings) : settings.reread.timeoutSecs = settings.timeoutSecs := by
  rw [reread]

section

variable {files : FileSystem} {path : Path}

theorem load_of_find_error {fault : FileError} (hfind : files.find path = .error fault) :
    load files path = .ok {} := by
  rw [load, if_neg (by simp [FileSystem.contains, hfind])]

theorem load_of_find_directory (hfind : files.find path = .ok .directory) :
    load files path = .error (.unreadableFile path .isDirectory) := by
  rw [load, if_pos (by simp [FileSystem.contains, hfind]), readFile, FileSystem.read, hfind]

/-- Stored settings are loaded as they were, with the server brought into normal form. -/
theorem load_of_find_stored {settings : Settings}
    (hfind : files.find path = .ok (.file (Utf8.encode settings.stored))) :
    load files path = .ok settings.reread := by
  rw [load, if_pos (by simp [FileSystem.contains, hfind]), readFile, FileSystem.read, hfind]
  simp only [Utf8.decode?_encode, Option.isSome_some, ↓reduceIte, decode_stored, reread]

theorem find_of_save {saved : FileSystem} {settings : Settings} (hsave : settings.save files path = (.ok (), saved)) :
    saved.find path = .ok (.file (Utf8.encode settings.stored)) := by
  unfold save at hsave
  split at hsave
  · cases hsave
  · split at hsave
    · cases hsave
    · rename_i made _ written hwrite
      obtain ⟨_, rfl⟩ := Prod.mk.inj hsave
      exact FileSystem.find_of_write hwrite

/-- Where settings could not be stored, no file is found afterwards. -/
theorem find_of_save_error (hpath : path.NamesEntry) {made : FileSystem} {settings : Settings} {fault : Fault}
    (hsave : settings.save files path = (.error fault, made)) (bytes : List UInt8) :
    made.find path ≠ .ok (.file bytes) := by
  unfold save at hsave
  split at hsave
  · rename_i cause found hcause
    obtain ⟨_, rfl⟩ := Prod.mk.inj hsave
    exact FileSystem.find_of_ensureParent_error hpath hcause _
  · split at hsave
    · rename_i cause hcause
      obtain ⟨_, rfl⟩ := Prod.mk.inj hsave
      exact FileSystem.find_of_write_error hpath hcause bytes
    · cases hsave

/-- Where settings could not be stored, only directories were made for them. -/
theorem eq_ensureParent_of_save_error {made : FileSystem} {settings : Settings} {fault : Fault}
    (hsave : settings.save files path = (.error fault, made)) : made = (files.ensureParent path).2 := by
  unfold save at hsave
  split at hsave
  · rename_i cause found hcause
    obtain ⟨_, rfl⟩ := Prod.mk.inj hsave
    rw [hcause]
  · rename_i found hfound
    split at hsave
    · obtain ⟨_, rfl⟩ := Prod.mk.inj hsave
      rw [hfound]
    · cases hsave

/-- A file that is found is always written anew. -/
theorem exists_save_of_find_file (hpath : path.NamesEntry) {bytes : List UInt8}
    (hfind : files.find path = .ok (.file bytes)) (settings : Settings) :
    ∃ saved, settings.save files path = (.ok (), saved) := by
  rcases hsave : settings.save files path with ⟨fault | ⟨⟩, saved⟩
  · have hextends := FileSystem.extends_ensureParent files path
    rw [← eq_ensureParent_of_save_error hsave] at hextends
    have hstill := FileSystem.find_of_extends hextends hfind
    exact absurd hstill (find_of_save_error hpath hsave bytes)
  · exact ⟨saved, rfl⟩

theorem reset_of_find_error {fault : FileError} (hfind : files.find path = .error fault) :
    reset files path = .ok files := by
  rw [reset, if_neg (by simp [FileSystem.contains, hfind])]

theorem reset_of_find_directory (hpath : path.NamesEntry) (hfind : files.find path = .ok .directory) :
    reset files path = .error (.unremovableFile path .isDirectory) := by
  rw [reset, if_pos (by simp [FileSystem.contains, hfind]), FileSystem.remove_of_find_directory hpath hfind]

/-- Resetting removes the file, which leaves its place empty. -/
theorem reset_of_find_file (hpath : path.NamesEntry) {bytes : List UInt8}
    (hfind : files.find path = .ok (.file bytes)) :
    ∃ removed target, reset files path = .ok removed ∧ removed.target path = .ok target ∧
      removed.get? target.location = none := by
  obtain ⟨removed, target, hremove, hplace⟩ := FileSystem.remove_of_find hpath hfind
  refine ⟨removed, target, ?_, hplace⟩
  rw [reset, if_pos (by simp [FileSystem.contains, hfind]), hremove]

end

end RobotAdmin.Settings
