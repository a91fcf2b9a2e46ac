import RobotAdmin.FileSystem.Access
import RobotAdmin.Proofs.FileSystem.Names
import RobotAdmin.Proofs.FileSystem.Walk

namespace RobotAdmin.FileSystem

theorem isDirectory_eq_true_iff {files : FileSystem} {path : Path} :
    files.isDirectory path = true ↔ files.find path = .ok .directory := by
  unfold isDirectory
  cases files.find path with
  | error fault => simp
  | ok entry => cases entry <;> simp

theorem find_eq_directory_iff {files : FileSystem} {path : Path} :
    files.find path = .ok .directory ↔
      IsAdmissible path ∧ ∃ place, files.enter (files.start path) path.names = some place := by
  unfold find
  constructor
  · intro hfind
    cases htarget : files.target path with
    | error fault => simp [htarget] at hfind
    | ok target =>
      obtain ⟨hpath, hnames⟩ := target_eq_ok_iff.mp htarget
      simp only [htarget] at hfind
      cases hentry : files.get? target.location with
      | none => simp [hentry] at hfind
      | some entry =>
        simp only [hentry] at hfind
        cases entry with
        | directory => exact ⟨hpath, target.location, enter_eq_some_iff.mpr ⟨target, hnames, rfl, hentry⟩⟩
        | file bytes =>
          dsimp only at hfind
          split at hfind
          · cases hfind
          · cases hfind
  · rintro ⟨hpath, place, henter⟩
    obtain ⟨target, hnames, rfl, hentry⟩ := enter_eq_some_iff.mp henter
    rw [target_eq_ok_iff.mpr ⟨hpath, hnames⟩]
    simp only [hentry]

theorem extends_makeDirectory {files made : FileSystem} {path : Path} (hmade : files.makeDirectory path = .ok made) :
    files.Extends made := by
  unfold makeDirectory at hmade
  split at hmade
  · cases hmade
  · cases hmade
  · rename_i parent name _
    split at hmade
    · cases hmade
    · rename_i hnone
      obtain rfl := Except.ok.inj hmade
      exact extends_put_directory (by simpa using hnone)

theorem extends_ensureDirectory {files made : FileSystem} {path : Path}
    (hmade : files.ensureDirectory path = .ok made) : files.Extends made := by
  unfold ensureDirectory at hmade
  split at hmade
  · rename_i found hfound
    obtain rfl := Except.ok.inj hmade
    exact extends_makeDirectory hfound
  · split at hmade
    · obtain rfl := Except.ok.inj hmade
      exact Extends.refl files
    · cases hmade

theorem isDirectory_of_ensureDirectory_error {files : FileSystem} {path : Path} {fault : FileError}
    (hfault : files.ensureDirectory path = .error fault) : files.isDirectory path = false := by
  unfold ensureDirectory at hfault
  split at hfault
  · cases hfault
  · split at hfault
    · cases hfault
    · rename_i hdirectory
      exact Bool.eq_false_iff.mpr hdirectory

theorem extends_ensureDirectories (absolute : Bool) (components : List Path.Name) (files : FileSystem) :
    files.Extends (files.ensureDirectories absolute components).2 := by
  induction components generalizing files with
  | nil => exact Extends.refl files
  | cons name above ih =>
    unfold ensureDirectories
    dsimp only
    split
    · rename_i made hmade
      exact extends_ensureDirectory hmade
    · have habove := ih files
      split
      · rename_i fault made hmade
        rwa [hmade] at habove
      · rename_i made hmade
        rw [hmade] at habove
        split
        · rename_i last hlast
          exact habove.trans (extends_ensureDirectory hlast)
        · exact habove
    · exact Extends.refl files

/-- Making the directories above an entry adds nothing but directories, even where it fails. -/
theorem extends_ensureParent (files : FileSystem) (path : Path) : files.Extends (files.ensureParent path).2 :=
  extends_ensureDirectories path.isAbsolute path.components.tail files

theorem isAdmissible_ofComponents {path : Path} {components : List Path.Name} (hpath : IsAdmissible path)
    (hne : components ≠ []) (hnames : ∀ name ∈ components, Path.IsName name)
    (hcomponents : components.reverse.Sublist path.names) :
    IsAdmissible (Path.ofComponents path.isAbsolute components) := by
  have hbytes := Path.bytes_ofComponents_sublist hcomponents
  refine ⟨fun hzero => hpath.not_mem_zero (hbytes.subset hzero), ?_, Nat.le_trans hbytes.length_le hpath.length_le⟩
  intro hempty
  have hall := Path.names_ofComponents hnames path.isAbsolute
  rw [Path.names, hempty] at hall
  exact hne (List.reverse_eq_nil_iff.mp hall.symm)

/-- Where some of the names of a path lead, if they lead to a directory on their own. -/
theorem find_ofComponents {files : FileSystem} {path : Path} {components : List Path.Name} {place : Location}
    (hpath : IsAdmissible path) (hne : components ≠ []) (hnames : ∀ name ∈ components, Path.IsName name)
    (hcomponents : components.reverse.Sublist path.names)
    (henter : files.enter (files.start path) components.reverse = some place) :
    files.find (Path.ofComponents path.isAbsolute components) = .ok .directory := by
  refine find_eq_directory_iff.mpr ⟨isAdmissible_ofComponents hpath hne hnames hcomponents, place, ?_⟩
  rw [start, Path.isAbsolute_ofComponents hnames hne, Path.names_ofComponents hnames]
  exact henter

/-- A directory lies in a directory. -/
theorem isDirectory_above {files : FileSystem} {absolute : Bool} {name : Path.Name} {above : List Path.Name}
    (hnames : ∀ other ∈ name :: above, Path.IsName other) (hne : above ≠ [])
    (hdirectory : files.isDirectory (Path.ofComponents absolute (name :: above)) = true) :
    files.isDirectory (Path.ofComponents absolute above) = true := by
  obtain ⟨hpath, place, henter⟩ := find_eq_directory_iff.mp (isDirectory_eq_true_iff.mp hdirectory)
  have hall := Path.names_ofComponents hnames absolute
  rw [hall, List.reverse_cons] at henter
  obtain ⟨parent, hparent⟩ := enter_append henter
  have habove := find_ofComponents hpath hne (fun other hother => hnames other (List.mem_cons_of_mem name hother))
    (by rw [hall, List.reverse_cons]; exact List.sublist_append_left ..) hparent
  rw [Path.isAbsolute_ofComponents hnames (by simp)] at habove
  exact isDirectory_eq_true_iff.mpr habove

/-- Where directories could not be made, the last of them is not there. -/
theorem isDirectory_of_ensureDirectories_error {absolute : Bool} {components : List Path.Name}
    (hnames : ∀ name ∈ components, Path.IsName name) {files made : FileSystem} {fault : FileError}
    (hfault : files.ensureDirectories absolute components = (.error fault, made)) :
    made.isDirectory (Path.ofComponents absolute components) = false := by
  induction components generalizing files made fault with
  | nil => cases hfault
  | cons name above ih =>
    unfold ensureDirectories at hfault
    dsimp only at hfault
    split at hfault
    · cases hfault
    · split at hfault
      · rename_i cause found hcause
        obtain ⟨_, rfl⟩ := Prod.mk.inj hfault
        have hne : above ≠ [] := by
          rintro rfl
          cases hcause
        have hmissing := ih (fun other hother => hnames other (List.mem_cons_of_mem name hother)) hcause
        apply Bool.eq_false_iff.mpr
        intro hdirectory
        rw [isDirectory_above hnames hne hdirectory] at hmissing
        cases hmissing
      · split at hfault
        · cases hfault
        · rename_i found _ cause hcause
          obtain ⟨_, rfl⟩ := Prod.mk.inj hfault
          exact isDirectory_of_ensureDirectory_error hcause
    · rename_i cause _ hcause
      obtain ⟨_, rfl⟩ := Prod.mk.inj hfault
      exact isDirectory_of_ensureDirectory_error hcause

end RobotAdmin.FileSystem
