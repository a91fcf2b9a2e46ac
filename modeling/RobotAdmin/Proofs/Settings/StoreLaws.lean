import RobotAdmin.Proofs.Settings.Keeping

namespace RobotAdmin.Settings

section

variable {files : FileSystem} {path : Path}

/-- Where settings were reset, nothing is found at their path. -/
theorem exists_find_error_of_reset {removed : FileSystem} (hreset : reset files path = .ok removed) :
    ∃ fault, removed.find path = .error fault := by
  unfold reset at hreset
  split at hreset
  · split at hreset
    · cases hreset
    · rename_i hremove
      obtain rfl := Except.ok.inj hreset
      exact ⟨_, FileSystem.find_of_remove hremove⟩
  · rename_i hmissing
    obtain rfl := Except.ok.inj hreset
    unfold FileSystem.contains at hmissing
    split at hmissing
    · exact absurd rfl hmissing
    · exact ⟨_, by assumption⟩

theorem get?_of_reset {removed : FileSystem} (hreset : reset files path = .ok removed) {location : Location}
    (hother : ¬ removed.Denotes path location) : removed.get? location = files.get? location := by
  unfold reset at hreset
  split at hreset
  · split at hreset
    · cases hreset
    · rename_i hremove
      obtain rfl := Except.ok.inj hreset
      exact FileSystem.get?_of_remove hremove hother
  · obtain rfl := Except.ok.inj hreset
    rfl

/-- Settings that could not be stored leave every file as it was. -/
theorem get?_file_of_save_error {made : FileSystem} {settings : Settings} {fault : Fault}
    (hsave : settings.save files path = (.error fault, made)) (location : Location) (bytes : List UInt8) :
    made.get? location = some (.file bytes) ↔ files.get? location = some (.file bytes) := by
  rw [eq_ensureParent_of_save_error hsave]
  exact (FileSystem.extends_ensureParent files path).get?_file_iff location bytes

/-- Settings are stored in the place that their path leads to and nowhere else. -/
theorem get?_file_of_save {saved : FileSystem} {settings : Settings} (hsave : settings.save files path = (.ok (), saved))
    {location : Location} (hother : ¬ saved.Denotes path location) (bytes : List UInt8) :
    saved.get? location = some (.file bytes) ↔ files.get? location = some (.file bytes) := by
  unfold save at hsave
  split at hsave
  · cases hsave
  · rename_i made hmade
    have hextends := FileSystem.extends_ensureParent files path
    rw [hmade] at hextends
    split at hsave
    · cases hsave
    · rename_i written hwrite
      obtain ⟨_, rfl⟩ := Prod.mk.inj hsave
      rw [FileSystem.get?_of_write hwrite hother]
      exact hextends.get?_file_iff location bytes

end

/-- What is stored at a path is loaded again, with the server in normal form, whatever was there before. Where settings
    were reset the default ones are loaded, and a second reset changes nothing. No file but the one that the path leads
    to is touched, and not even that where settings could not be stored. A file that is there never stands in the way. -/
theorem store_laws (files : FileSystem) (path : Path) (settings : Settings) :
    (∀ saved, settings.save files path = (.ok (), saved) →
      load saved path = .ok ⟨normalizeServer settings.server, settings.timeoutSecs⟩ ∧
        (normalizeServer settings.server = settings.server → load saved path = .ok settings)) ∧
    (∀ removed, reset files path = .ok removed →
      load removed path = .ok ⟨defaultServer, defaultTimeoutSecs⟩ ∧ reset removed path = .ok removed) ∧
    (∀ result after, settings.save files path = (result, after) →
      ∀ location, result ≠ .ok () ∨ ¬ after.Denotes path location →
        ∀ bytes, after.get? location = some (.file bytes) ↔ files.get? location = some (.file bytes)) ∧
    (∀ location, let after := (reset files path).toOption.getD files
      ¬ after.Denotes path location → after.get? location = files.get? location) ∧
    (path.NamesEntry → ∀ bytes, files.find path = .ok (.file bytes) →
      (∃ saved, settings.save files path = (.ok (), saved)) ∧ ∃ removed, reset files path = .ok removed) := by
  refine ⟨?_, ?_, ?_, ?_, ?_⟩
  · intro saved hsave
    have hload := load_of_find_stored (find_of_save hsave)
    refine ⟨hload, fun hnormal => ?_⟩
    rw [hload, reread, hnormal]
  · intro removed hreset
    obtain ⟨fault, hfind⟩ := exists_find_error_of_reset hreset
    exact ⟨load_of_find_error hfind, reset_of_find_error hfind⟩
  · intro result after hsave location hother bytes
    cases result with
    | error fault => exact get?_file_of_save_error hsave location bytes
    | ok stored => exact get?_file_of_save hsave (hother.resolve_left (by simp)) bytes
  · intro location after hother
    cases hreset : reset files path with
    | error fault => simp only [after, hreset]; rfl
    | ok removed =>
      have hafter : after = removed := by simp only [after, hreset]; rfl
      rw [hafter] at hother ⊢
      exact get?_of_reset hreset hother
  · intro hpath bytes hfind
    obtain ⟨removed, _, hreset, _⟩ := reset_of_find_file hpath hfind
    exact ⟨exists_save_of_find_file hpath hfind settings, removed, hreset⟩

/-- A path through a directory that is only made on the way leads to an old file, which is replaced and then removed. Its
    neighbour stays. -/
theorem store_laws_through_new_directory :
    let work : Path.Name := Utf8.encode "work"
    let files : FileSystem := {
      entries := [([work], .directory), ([Utf8.encode "config.json", work], .file (Utf8.encode "old")),
        ([Utf8.encode "notes", work], .file (Utf8.encode "text"))]
      workingDirectory := [work] }
    let path := Path.ofText "new/../config.json"
    let settings : Settings := ⟨"http://h//", 18446744073709551615⟩
    let saved := (settings.save files path).2
    let removed := saved.erase [Utf8.encode "config.json", work]
    settings.save files path = (.ok (), saved) ∧
      load saved path = .ok ⟨"http://h", 18446744073709551615⟩ ∧
      saved.get? [Utf8.encode "notes", work] = some (.file (Utf8.encode "text")) ∧
      reset saved path = .ok removed ∧ load removed path = .ok {} ∧ reset removed path = .ok removed ∧
      removed.get? [Utf8.encode "notes", work] = some (.file (Utf8.encode "text")) := by
  intro work files path settings saved removed
  have hsave : settings.save files path = (.ok (), saved) := by decide +kernel
  have hreset : reset saved path = .ok removed := by decide +kernel
  have hneighbour {state : FileSystem} (htarget : state.target path = .ok (.entry [work] (Utf8.encode "config.json"))) :
      ¬ state.Denotes path [Utf8.encode "notes", work] := by
    rintro ⟨target, hfound, hlocation⟩
    obtain rfl := Except.ok.inj (htarget.symm.trans hfound)
    exact absurd hlocation (by decide)
  obtain ⟨hload, _, hkept, _⟩ := store_laws files path settings
  obtain ⟨_, hdefault, _, hleft, _⟩ := store_laws saved path settings
  have hnotes := (hkept _ _ hsave _ (.inr (hneighbour (by decide +kernel))) (Utf8.encode "text")).mpr (by decide +kernel)
  have hafter := hleft [Utf8.encode "notes", work]
  rw [hreset] at hafter
  refine ⟨hsave, (hload _ hsave).1.trans (by decide +kernel), hnotes, hreset, (hdefault _ hreset).1,
    (hdefault _ hreset).2, (hafter (hneighbour (by decide +kernel))).trans hnotes⟩

end RobotAdmin.Settings
