import Mathlib.Control.Monad.Basic
import RobotAdmin.Program.Run
import RobotAdmin.Proofs.FileSystem.Making
import RobotAdmin.Proofs.Program.Configuring

namespace RobotAdmin.Program

section

variable {files after : FileSystem} {path : Path} {fault : Fault}

theorem store_error_cases {settings : Settings} {text : String}
    (hfault : store path settings text files = (.error fault, after)) : after = (files.ensureParent path).2 := by
  unfold store at hfault
  split at hfault
  · rename_i cause made hsave
    obtain ⟨_, rfl⟩ := Prod.mk.inj hfault
    exact Settings.eq_ensureParent_of_save_error hsave
  · cases hfault

/-- An action fails before it changes anything or while settings are stored. -/
theorem configure_error_cases {environment : Environment} (hpath : environment.settingsPath? = some path)
    {overrides : Overrides} {action : SettingsAction}
    (hfault : configure environment overrides action files = (.error fault, after)) :
    after = files ∨ after = (files.ensureParent path).2 := by
  rw [configure_eq hpath] at hfault
  cases action with
  | view => exact .inl (Prod.mk.inj hfault).2.symm
  | setServer url =>
    simp only [setServer] at hfault
    split at hfault
    · exact .inl (Prod.mk.inj hfault).2.symm
    · split at hfault
      · exact .inl (Prod.mk.inj hfault).2.symm
      · exact .inr (store_error_cases hfault)
  | setTimeout secs =>
    simp only [setTimeout] at hfault
    split at hfault
    · exact .inl (Prod.mk.inj hfault).2.symm
    · exact .inr (store_error_cases hfault)
  | reset =>
    simp only [reset] at hfault
    split at hfault
    · exact .inl (Prod.mk.inj hfault).2.symm
    · cases hfault

/-- What a failed action leaves behind has everything of the state before it, and beyond that only directories
    above the settings file. -/
theorem extends_of_configure_error {environment : Environment} {overrides : Overrides} {action : SettingsAction}
    (hfault : configure environment overrides action files = (.error fault, after)) :
    files.Extends after ∧ ∀ location, after.get? location ≠ files.get? location →
      ∃ path, environment.settingsPath? = some path ∧ after.IsAbove path location := by
  cases hpath : environment.settingsPath? with
  | none =>
    rw [configure, settingsPath, hpath] at hfault
    obtain ⟨_, rfl⟩ := Prod.mk.inj hfault
    exact ⟨.refl files, fun _ hchanged => absurd rfl hchanged⟩
  | some path =>
    obtain rfl | rfl := configure_error_cases hpath hfault
    · exact ⟨.refl after, fun _ hchanged => absurd rfl hchanged⟩
    · exact ⟨FileSystem.extends_ensureParent files path, fun _ hchanged =>
        ⟨path, rfl, FileSystem.isAbove_of_ensureParent hchanged⟩⟩

end

/-- An action on the settings that fails prints nothing, whatever the state of the files, the variables and the flags
    are. Every file stays as it was and none is added; all that can be new are directories above the settings file
    where nothing was before. -/
theorem files_of_failed_action {line : CommandLine} {action : Option SettingsAction}
    (htask : line.task = .configure action) {environment : Environment} {files : FileSystem} {fault : Fault}
    (hfault : (configure environment line.overrides (action.getD .view) files).1 = .error fault)
    (network : Http.Network) :
    let ending := perform line environment files network
    ending.exitCode = 1 ∧ ending.output = "" ∧ ending.complaint = fault.report ∧
      (∀ location bytes,
        ending.files.get? location = some (.file bytes) ↔ files.get? location = some (.file bytes)) ∧
      ∀ location, ending.files.get? location ≠ files.get? location →
        files.get? location = none ∧ ending.files.get? location = some .directory ∧
          ∃ path, environment.settingsPath? = some path ∧ ending.files.IsAbove path location := by
  rcases hresult : configure environment line.overrides (action.getD .view) files with ⟨result, after⟩
  rw [hresult] at hfault
  obtain rfl : result = .error fault := hfault
  have hending : perform line environment files network =
      { exitCode := 1, output := "", complaint := fault.report, files := after, network } := by
    simp only [perform, htask, hresult, Ending.ofResult]
  obtain ⟨hextends, habove⟩ := extends_of_configure_error hresult
  have hnew (location : Location) (hchanged : after.get? location ≠ files.get? location) :
      files.get? location = none ∧ after.get? location = some .directory := by
    cases hbefore : files.get? location with
    | some entry => exact absurd ((hextends.get?_entry location entry hbefore).trans hbefore.symm) hchanged
    | none =>
      have hlater := hextends.get?_new location hbefore
      exact ⟨rfl, hlater.resolve_left fun hnone => hchanged (hnone.trans hbefore.symm)⟩
  simp only [hending]
  refine ⟨trivial, trivial, trivial, fun location bytes => ⟨fun hfile => ?_, hextends.get?_entry location _⟩,
    fun location hchanged => ⟨(hnew location hchanged).1, (hnew location hchanged).2, habove location hchanged⟩⟩
  by_cases hchanged : after.get? location = files.get? location
  · rw [← hchanged, hfile]
  · rw [(hnew location hchanged).2] at hfile
    cases hfile

/-- On the way to a file in the place of a directory another directory is made. It stays, and so does the file. -/
theorem files_of_failed_setTimeout :
    let environment : Environment := ⟨[("XDG_CONFIG_HOME", Utf8.encode "/new/../taken")]⟩
    let files : FileSystem := { entries := [([Utf8.encode "taken"], .file (Utf8.encode "text"))] }
    let line : CommandLine := { task := .configure (some (.setTimeout 5)) }
    let ending := perform line environment files {}
    line.task = .configure (some (.setTimeout 5)) ∧
      (configure environment line.overrides (.setTimeout 5) files).1 =
        .error (.directoryNotMade .alreadyExists) ∧
      ending.output = "" ∧
      ending.files.get? [Utf8.encode "taken"] = some (.file (Utf8.encode "text")) ∧
      ending.files.get? [Utf8.encode "new"] = some .directory ∧
      ∃ path, environment.settingsPath? = some path ∧ ending.files.IsAbove path [Utf8.encode "new"] := by
  intro environment files line ending
  have hfault : (configure environment line.overrides (.setTimeout 5) files).1 =
      .error (.directoryNotMade .alreadyExists) := by decide +kernel
  have htask : line.task = .configure (some (.setTimeout 5)) := rfl
  obtain ⟨_, houtput, _, hfiles, hnew⟩ := files_of_failed_action htask hfault {}
  have hmade : ending.files.get? [Utf8.encode "new"] ≠ files.get? [Utf8.encode "new"] := by decide +kernel
  obtain ⟨_, hdirectory, habove⟩ := hnew _ hmade
  exact ⟨htask, hfault, houtput, (hfiles _ _).mpr (by decide +kernel), hdirectory, habove⟩

end RobotAdmin.Program
