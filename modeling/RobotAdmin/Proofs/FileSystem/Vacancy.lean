import RobotAdmin.Proofs.FileSystem.Entries

namespace RobotAdmin.FileSystem

theorem find_of_makeDirectory {files made : FileSystem} {path : Path} (hmade : files.makeDirectory path = .ok made) :
    made.find path = .ok .directory := by
  have hextends := extends_makeDirectory hmade
  unfold makeDirectory at hmade
  split at hmade
  · cases hmade
  · cases hmade
  · rename_i parent name htarget
    split at hmade
    · cases hmade
    · obtain rfl := Except.ok.inj hmade
      rw [find, target_of_keeps hextends.toKeeps htarget]
      simp [Target.location]

theorem isDirectory_of_ensureDirectory {files made : FileSystem} {path : Path}
    (hmade : files.ensureDirectory path = .ok made) : made.isDirectory path = true := by
  unfold ensureDirectory at hmade
  split at hmade
  · rename_i found hfound
    obtain rfl := Except.ok.inj hmade
    exact isDirectory_eq_true_iff.mpr (find_of_makeDirectory hfound)
  · split at hmade
    · rename_i hdirectory
      obtain rfl := Except.ok.inj hmade
      exact hdirectory
    · cases hmade

/-- A directory that is there already is left as it is. -/
theorem ensureDirectory_of_isDirectory {files : FileSystem} {path : Path} (hdirectory : files.isDirectory path = true) :
    files.ensureDirectory path = .ok files := by
  cases hmade : files.makeDirectory path with
  | error fault => rw [ensureDirectory, hmade]; exact if_pos hdirectory
  | ok made =>
    have hfind := isDirectory_eq_true_iff.mp hdirectory
    unfold find at hfind
    unfold makeDirectory at hmade
    cases htarget : files.target path with
    | error fault => simp [htarget] at hmade
    | ok target =>
      simp only [htarget] at hfind hmade
      cases target with
      | directory place => cases hmade
      | entry parent name =>
        cases hentry : files.get? (name :: parent) with
        | none => simp [Target.location, hentry] at hfind
        | some entry => simp [hentry] at hmade

/-- Directories that were made are there, the last of them included. -/
theorem isDirectory_of_ensureDirectories {absolute : Bool} {components : List Path.Name} (hne : components ≠ [])
    {files made : FileSystem} (hmade : files.ensureDirectories absolute components = (.ok (), made)) :
    made.isDirectory (Path.ofComponents absolute components) = true := by
  cases components with
  | nil => exact absurd rfl hne
  | cons name above =>
    unfold ensureDirectories at hmade
    dsimp only at hmade
    split at hmade
    · rename_i found hfound
      obtain ⟨_, rfl⟩ := Prod.mk.inj hmade
      exact isDirectory_of_ensureDirectory hfound
    · split at hmade
      · cases hmade
      · split at hmade
        · rename_i last hlast
          obtain ⟨_, rfl⟩ := Prod.mk.inj hmade
          exact isDirectory_of_ensureDirectory hlast
        · cases hmade
    · cases hmade

/-- Behind names that lead to a directory the next name is looked up there. -/
theorem targetFrom_concat {files : FileSystem} {names : List Path.Name} {last : Path.Name} {location place : Location}
    (henter : files.enter location names = some place) :
    files.targetFrom location (names ++ [last]) = files.step place last := by
  induction names generalizing location with
  | nil =>
    unfold enter at henter
    split at henter
    · obtain rfl := Option.some.inj henter
      rw [List.nil_append, targetFrom]
      cases files.step location last <;> rfl
    · cases henter
  | cons name rest ih =>
    rw [enter] at henter
    rw [List.cons_append, targetFrom]
    cases hstep : files.step location name with
    | error fault => simp [hstep] at henter
    | ok next =>
      simp only [hstep] at henter ⊢
      have hmore : (rest ++ [last]).isEmpty = false := by simp
      rw [hmore, if_neg Bool.false_ne_true, directory_of_enter henter, Option.isSome_some, if_pos rfl]
      exact ih henter

/-- Nothing is at the place of an entry, and the directories above it are there or can be made without anything
    coming to stand in that place. -/
def Vacant (files : FileSystem) (path : Path) : Prop :=
  ∃ made, files.ensureParent path = (.ok (), made) ∧ made.find path = .error .notFound

theorem Vacant.exists_find_error {files : FileSystem} {path : Path} (hvacant : files.Vacant path) :
    ∃ fault, files.find path = .error fault := by
  obtain ⟨made, hmade, hnone⟩ := hvacant
  cases hfind : files.find path with
  | error fault => exact ⟨fault, rfl⟩
  | ok entry =>
    have hextends := extends_ensureParent files path
    rw [hmade] at hextends
    rw [find_of_extends hextends hfind] at hnone
    cases hnone

theorem isAdmissible_of_find_notFound {files : FileSystem} {path : Path} (hnames : path.names ≠ [])
    (hnone : files.find path = .error .notFound) : IsAdmissible path := by
  have hbytes : path.bytes ≠ [] := fun hempty => hnames (by rw [Path.names, hempty]; rfl)
  unfold find FileSystem.target at hnone
  split at hnone
  · rename_i fault htarget
    split at htarget
    · cases htarget
      cases hnone
    split at htarget
    · rename_i hempty
      exact absurd (List.isEmpty_iff.mp hempty) hbytes
    split at htarget
    · cases htarget
      cases hnone
    · rename_i hzero _ hlength
      exact ⟨by simpa using hzero, hbytes, by omega⟩
  · rename_i target htarget
    exact (target_eq_ok_iff.mp htarget).1

/-- What is not found in a directory that is there has a place in it. -/
theorem exists_target_of_find_notFound {files : FileSystem} {path : Path} (hpath : path.NamesEntry)
    (hne : path.components.tail ≠ [])
    (hdirectory : files.isDirectory (Path.ofComponents path.isAbsolute path.components.tail) = true)
    (hnone : files.find path = .error .notFound) :
    ∃ parent name, files.target path = .ok (.entry parent name) ∧ files.get? (name :: parent) = none := by
  obtain ⟨before, last, hnames, hdot, hdotDot⟩ := hpath.exists_last
  obtain ⟨_, place, henter⟩ := find_eq_directory_iff.mp (isDirectory_eq_true_iff.mp hdirectory)
  rw [start, Path.isAbsolute_ofComponents hpath.isName_of_mem hne, Path.names_ofComponents hpath.isName_of_mem,
    Path.reverse_tail_components hnames hdot, enter_withoutDots] at henter
  have hwalk : files.targetFrom (files.start path) path.names = files.step place last := by
    rw [hnames]
    exact targetFrom_concat henter
  have hadmissible := isAdmissible_of_find_notFound (by simp [hnames]) hnone
  obtain ⟨_, _, _, hplace⟩ := enter_eq_some_iff.mp henter
  rw [step, if_neg (by simp [hplace]), if_neg hdot, if_neg hdotDot] at hwalk
  split at hwalk
  · rw [find, target_of_isAdmissible hadmissible, hwalk] at hnone
    cases hnone
  · have htarget := target_eq_ok_iff.mpr ⟨hadmissible, hwalk⟩
    refine ⟨place, last, htarget, ?_⟩
    simp only [find, htarget, Target.location] at hnone
    split at hnone
    · assumption
    · split at hnone
      · cases hnone
      · cases hnone
    · cases hnone

/-- Where nothing is in the place of a file, it can be written once the directories above it are made. -/
theorem Vacant.exists_write {files : FileSystem} {path : Path} (hvacant : files.Vacant path)
    (hpath : path.NamesEntry) (hne : path.components.tail ≠ []) (bytes : List UInt8) :
    ∃ made written, files.ensureParent path = (.ok (), made) ∧ made.write path bytes = .ok written := by
  obtain ⟨made, hmade, hnone⟩ := hvacant
  have hdirectory := isDirectory_of_ensureDirectories hne hmade
  obtain ⟨parent, name, htarget, hentry⟩ := exists_target_of_find_notFound hpath hne hdirectory hnone
  refine ⟨made, made.put (name :: parent) (.file bytes), hmade, ?_⟩
  simp [write, htarget, hentry, hpath.endsInSlash_eq]

/-- A place that is looked up in a directory and empty is vacant as it is. -/
theorem vacant_of_get?_none {files : FileSystem} {path : Path} (hpath : path.NamesEntry)
    (hne : path.components.tail ≠ []) {target : Target} (htarget : files.target path = .ok target)
    (hnone : files.get? target.location = none) : files.Vacant path := by
  refine ⟨files, ?_, find_of_get?_none htarget hnone⟩
  have hdirectory := isDirectory_above_entry hpath hne htarget
  rw [ensureParent]
  cases hcomponents : path.components.tail with
  | nil => exact absurd hcomponents hne
  | cons name above =>
    rw [hcomponents] at hdirectory
    simp only [ensureDirectories, ensureDirectory_of_isDirectory hdirectory]

end RobotAdmin.FileSystem
