import RobotAdmin.Proofs.Program.Configuring

namespace RobotAdmin.Program

/-- The actions that have led to a state of the file system, the latest first. They begin where no settings
    are found, all concern the same path, and between them everything may change but what is found there. -/
inductive Leads (path : Path) : List Outcome → FileSystem → Prop where
  | start {files : FileSystem} (hvacant : files.contains path = false) : Leads path [] files
  | elsewhere {outcomes : List Outcome} {files later : FileSystem} (hrun : Leads path outcomes files)
      (hsame : ∀ entry, later.find path = .ok entry ↔ files.find path = .ok entry) : Leads path outcomes later
  | invoked {outcomes : List Outcome} {files : FileSystem} (hrun : Leads path outcomes files)
      {environment : Environment} (hpath : environment.settingsPath? = some path) (overrides : Overrides)
      (action : SettingsAction) :
      Leads path (⟨action, (configure environment overrides action files).1⟩ :: outcomes)
        (configure environment overrides action files).2

/-- What the settings file holds after all of the actions. -/
def kept : List Outcome → Option Settings
  | [] => none
  | outcome :: earlier => keptAfter (kept earlier) outcome

theorem holds_of_same {files later : FileSystem} {path : Path}
    (hsame : ∀ entry, later.find path = .ok entry ↔ files.find path = .ok entry) {kept : Option Settings}
    (hholds : Holds files path kept) : Holds later path kept := by
  cases kept with
  | none => exact fun bytes hbytes => hholds bytes ((hsame _).mp hbytes)
  | some settings => exact (hsame _).mpr hholds

theorem Leads.holds {path : Path} {outcomes : List Outcome} {files : FileSystem} (hrun : Leads path outcomes files) :
    Holds files path (kept outcomes) := by
  induction hrun with
  | start hvacant =>
    intro bytes hbytes
    simp [FileSystem.contains, hbytes] at hvacant
  | elsewhere _ hsame ih => exact holds_of_same hsame ih
  | invoked _ hpath overrides action ih => exact holds_configure hpath ih overrides action

end RobotAdmin.Program
