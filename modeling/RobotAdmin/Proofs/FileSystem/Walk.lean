import RobotAdmin.FileSystem.Target

namespace RobotAdmin.FileSystem

/-- A later state in which all directories of an earlier one are still there. -/
structure Keeps (files later : FileSystem) : Prop where
  workingDirectory_eq : later.workingDirectory = files.workingDirectory
  get?_directory : ∀ location, files.get? location = some .directory → later.get? location = some .directory

/-- A later state that has everything of an earlier one and beyond that only directories. -/
structure Extends (files later : FileSystem) : Prop extends Keeps files later where
  get?_entry : ∀ location entry, files.get? location = some entry → later.get? location = some entry
  get?_new : ∀ location, files.get? location = none →
    later.get? location = none ∨ later.get? location = some .directory

theorem Extends.refl (files : FileSystem) : files.Extends files :=
  ⟨⟨rfl, fun _ h => h⟩, fun _ _ h => h, fun _ h => .inl h⟩

theorem Extends.trans {first second third : FileSystem} (hsecond : first.Extends second)
    (hthird : second.Extends third) : first.Extends third := by
  refine ⟨⟨hthird.workingDirectory_eq.trans hsecond.workingDirectory_eq, ?_⟩, ?_, ?_⟩
  · intro location hdirectory
    exact hthird.get?_directory location (hsecond.get?_directory location hdirectory)
  · intro location entry hentry
    exact hthird.get?_entry location entry (hsecond.get?_entry location entry hentry)
  · intro location hnone
    obtain hstill | hmade := hsecond.get?_new location hnone
    · exact hthird.get?_new location hstill
    · exact .inr (hthird.get?_directory location hmade)

/-- What is new is no file. -/
theorem Extends.get?_file_iff {files later : FileSystem} (hextends : files.Extends later) (location : Location)
    (bytes : List UInt8) : later.get? location = some (.file bytes) ↔ files.get? location = some (.file bytes) := by
  refine ⟨fun hlater => ?_, hextends.get?_entry location _⟩
  cases hbefore : files.get? location with
  | some entry => exact (hextends.get?_entry location entry hbefore).symm.trans hlater
  | none =>
    obtain hnone | hdirectory := hextends.get?_new location hbefore
    · exact hnone.symm.trans hlater
    · rw [hdirectory] at hlater
      cases hlater

theorem get?_root (files : FileSystem) : files.get? [] = some .directory := by
  rw [get?, if_pos rfl]

/-- Making a directory where nothing was. -/
theorem extends_put_directory {files : FileSystem} {location : Location} (hnone : files.get? location = none) :
    files.Extends (files.put location .directory) := by
  have hlocation : location ≠ [] := by
    rintro rfl
    rw [get?_root] at hnone
    cases hnone
  have hentry : ∀ other entry, files.get? other = some entry →
      (files.put location .directory).get? other = some entry := by
    intro other entry hother
    have hne : other ≠ location := by
      rintro rfl
      rw [hnone] at hother
      cases hother
    rw [get?_put_of_ne hne, hother]
  refine ⟨⟨rfl, fun other => hentry other .directory⟩, hentry, ?_⟩
  intro other hother
  by_cases hsame : other = location
  · subst hsame
    exact .inr (get?_put_self hlocation)
  · exact .inl (by rw [get?_put_of_ne hsame, hother])

theorem keeps_put_file {files : FileSystem} {location : Location} (hfile : files.get? location ≠ some .directory)
    (bytes : List UInt8) : files.Keeps (files.put location (.file bytes)) := by
  refine ⟨rfl, fun other hother => ?_⟩
  have hne : other ≠ location := by
    rintro rfl
    exact hfile hother
  rw [get?_put_of_ne hne, hother]

theorem keeps_erase {files : FileSystem} {location : Location} (hfile : files.get? location ≠ some .directory) :
    files.Keeps (files.erase location) := by
  refine ⟨rfl, fun other hother => ?_⟩
  have hne : other ≠ location := by
    rintro rfl
    exact hfile hother
  rw [get?_erase_of_ne hne, hother]

theorem directory_of_step {files : FileSystem} {location : Location} {name : Path.Name} {target : Target}
    (hstep : files.step location name = .ok target) : files.get? location = some .directory := by
  unfold step at hstep
  split at hstep
  · cases hstep
  · rename_i hdirectory
    exact Decidable.not_not.mp hdirectory

theorem step_of_keeps {files later : FileSystem} (hkeeps : files.Keeps later) {location : Location}
    {name : Path.Name} {target : Target} (hstep : files.step location name = .ok target) :
    later.step location name = .ok target := by
  have hbefore := directory_of_step hstep
  have hlater := hkeeps.get?_directory location hbefore
  unfold step at hstep ⊢
  simpa only [hbefore, hlater] using hstep

/-- What a path leads through are directories, so that it leads to the same place where they are kept. -/
theorem targetFrom_of_keeps {files later : FileSystem} (hkeeps : files.Keeps later) {names : List Path.Name} :
    ∀ {location : Location} {target : Target}, files.targetFrom location names = .ok target →
      later.targetFrom location names = .ok target := by
  induction names with
  | nil =>
    intro location target htarget
    exact htarget
  | cons name rest ih =>
    intro location target htarget
    unfold targetFrom at htarget ⊢
    cases hstep : files.step location name with
    | error fault => simp [hstep] at htarget
    | ok next =>
      simp only [hstep, step_of_keeps hkeeps hstep] at htarget ⊢
      cases rest with
      | nil => exact htarget
      | cons second rest =>
        simp only [List.isEmpty_cons, Bool.false_eq_true, ↓reduceIte] at htarget ⊢
        split at htarget
        · have hfound := ih htarget
          have hplace : (later.get? next.location).isSome = true := by
            unfold targetFrom at htarget
            cases hnext : files.step next.location second with
            | error fault => simp [hnext] at htarget
            | ok after =>
              rw [hkeeps.get?_directory _ (directory_of_step hnext)]
              rfl
          rw [if_pos hplace, hfound]
        · cases htarget

/-- A path that the system takes at all. -/
structure IsAdmissible (path : Path) : Prop where
  not_mem_zero : 0 ∉ path.bytes
  ne_nil : path.bytes ≠ []
  length_le : path.bytes.length ≤ maxPathLength

/-- Where the names of a path begin. -/
def start (files : FileSystem) (path : Path) : Location :=
  if path.isAbsolute then [] else files.workingDirectory

theorem target_of_isAdmissible {files : FileSystem} {path : Path} (hpath : IsAdmissible path) :
    files.target path = files.targetFrom (files.start path) path.names := by
  obtain ⟨hzero, hempty, hlength⟩ := hpath
  rw [FileSystem.target, if_neg (by simpa using hzero), if_neg (by simpa using hempty), if_neg (by omega), start]

theorem target_eq_ok_iff {files : FileSystem} {path : Path} {target : Target} :
    files.target path = .ok target ↔
      IsAdmissible path ∧ files.targetFrom (files.start path) path.names = .ok target := by
  unfold FileSystem.target
  constructor
  · intro htarget
    split at htarget
    · cases htarget
    split at htarget
    · cases htarget
    split at htarget
    · cases htarget
    · rename_i hzero hempty hlength
      exact ⟨⟨by simpa using hzero, by simpa using hempty, by omega⟩, htarget⟩
  · rintro ⟨hpath, htarget⟩
    exact (target_of_isAdmissible hpath).trans htarget

theorem target_of_keeps {files later : FileSystem} (hkeeps : files.Keeps later) {path : Path} {target : Target}
    (htarget : files.target path = .ok target) : later.target path = .ok target := by
  obtain ⟨hpath, hnames⟩ := target_eq_ok_iff.mp htarget
  have hstart : later.start path = files.start path := by
    rw [start, start, hkeeps.workingDirectory_eq]
  exact target_eq_ok_iff.mpr ⟨hpath, hstart ▸ targetFrom_of_keeps hkeeps hnames⟩

theorem find_of_extends {files later : FileSystem} (hextends : files.Extends later) {path : Path} {entry : Entry}
    (hfind : files.find path = .ok entry) : later.find path = .ok entry := by
  unfold find at hfind ⊢
  cases htarget : files.target path with
  | error fault => simp [htarget] at hfind
  | ok target =>
    rw [target_of_keeps hextends.toKeeps htarget]
    simp only [htarget] at hfind ⊢
    cases hentry : files.get? target.location with
    | none => simp [hentry] at hfind
    | some found =>
      rw [hextends.get?_entry _ _ hentry]
      simpa only [hentry] using hfind

/-- The directory to which names lead, each of them through one. -/
def enter (files : FileSystem) (location : Location) : List Path.Name → Option Location
  | [] => if files.get? location = some .directory then some location else none
  | name :: rest =>
    match files.step location name with
    | .error _ => none
    | .ok target => files.enter target.location rest

theorem directory_of_enter {files : FileSystem} {names : List Path.Name} :
    ∀ {location found : Location}, files.enter location names = some found →
      files.get? location = some .directory := by
  intro location found henter
  cases names with
  | nil =>
    unfold enter at henter
    split at henter
    · assumption
    · cases henter
  | cons name rest =>
    unfold enter at henter
    split at henter
    · cases henter
    · rename_i hstep
      exact directory_of_step hstep

theorem step_dot {files : FileSystem} {location : Location} (hdirectory : files.get? location = some .directory) :
    files.step location Path.dot = .ok (.directory location) := by
  rw [step, if_neg (by simp [hdirectory]), if_pos rfl]

/-- Dots lead nowhere else. -/
theorem enter_dot (files : FileSystem) (location : Location) (names : List Path.Name) :
    files.enter location (Path.dot :: names) = files.enter location names := by
  by_cases hdirectory : files.get? location = some .directory
  · rw [enter, step_dot hdirectory]
    rfl
  · have hnone : ∀ names, files.enter location names = none := by
      intro names
      cases henter : files.enter location names with
      | none => rfl
      | some found => exact absurd (directory_of_enter henter) hdirectory
    rw [hnone, hnone]

theorem enter_filter_dot (files : FileSystem) (names : List Path.Name) (location : Location) :
    files.enter location (names.filter (· != Path.dot)) = files.enter location names := by
  induction names generalizing location with
  | nil => rfl
  | cons name rest ih =>
    by_cases hdot : name = Path.dot
    · rw [hdot, enter_dot, List.filter_cons_of_neg (by simp), ih]
    · rw [List.filter_cons_of_pos (by simpa using hdot), enter, enter]
      cases files.step location name with
      | error fault => rfl
      | ok target => exact ih target.location

theorem enter_append {files : FileSystem} {before after : List Path.Name} {location found : Location}
    (henter : files.enter location (before ++ after) = some found) :
    ∃ place, files.enter location before = some place := by
  induction before generalizing location with
  | nil => exact ⟨location, by rw [enter, if_pos (directory_of_enter henter)]⟩
  | cons name before ih =>
    rw [List.cons_append, enter] at henter
    rw [enter]
    cases hstep : files.step location name with
    | error fault => simp [hstep] at henter
    | ok target =>
      simp only [hstep] at henter ⊢
      exact ih henter

/-- Names lead to a directory exactly if they are entered one by one. -/
theorem enter_eq_some_iff {files : FileSystem} {names : List Path.Name} {location found : Location} :
    files.enter location names = some found ↔
      ∃ target, files.targetFrom location names = .ok target ∧ target.location = found ∧
        files.get? found = some .directory := by
  induction names generalizing location with
  | nil =>
    constructor
    · intro henter
      unfold enter at henter
      split at henter
      · obtain rfl := Option.some.inj henter
        exact ⟨.directory location, rfl, rfl, by assumption⟩
      · cases henter
    · rintro ⟨target, htarget, rfl, hdirectory⟩
      obtain rfl := Except.ok.inj htarget
      exact if_pos hdirectory
  | cons name rest ih =>
    unfold enter targetFrom
    cases hstep : files.step location name with
    | error fault => simp
    | ok next =>
      cases rest with
      | nil =>
        simp only [List.isEmpty_nil, ↓reduceIte]
        rw [ih]
        constructor
        · rintro ⟨target, htarget, rfl, hdirectory⟩
          obtain rfl := Except.ok.inj htarget
          exact ⟨next, rfl, rfl, hdirectory⟩
        · rintro ⟨target, htarget, rfl, hdirectory⟩
          obtain rfl := Except.ok.inj htarget
          exact ⟨.directory next.location, rfl, rfl, hdirectory⟩
      | cons second rest =>
        simp only [List.isEmpty_cons, Bool.false_eq_true, ↓reduceIte]
        by_cases hplace : (files.get? next.location).isSome = true
        · rw [if_pos hplace]
          exact ih
        · rw [if_neg hplace]
          constructor
          · intro henter
            rw [directory_of_enter henter] at hplace
            exact absurd rfl hplace
          · rintro ⟨target, htarget, _⟩
            cases htarget

/-- An entry is looked up in a directory to which the names before it lead. -/
theorem enter_of_targetFrom_concat {files : FileSystem} {names : List Path.Name} {last : Path.Name}
    {location : Location} {target : Target} (htarget : files.targetFrom location (names ++ [last]) = .ok target) :
    ∃ place, files.enter location names = some place ∧ files.step place last = .ok target := by
  induction names generalizing location with
  | nil =>
    rw [List.nil_append, targetFrom] at htarget
    cases hstep : files.step location last with
    | error fault => simp [hstep] at htarget
    | ok next =>
      simp only [hstep, List.isEmpty_nil, ↓reduceIte] at htarget
      exact ⟨location, if_pos (directory_of_step hstep), htarget ▸ hstep⟩
  | cons name rest ih =>
    rw [List.cons_append, targetFrom] at htarget
    rw [enter]
    cases hstep : files.step location name with
    | error fault => simp [hstep] at htarget
    | ok next =>
      have hmore : (rest ++ [last]).isEmpty = false := by simp
      simp only [hstep, hmore, Bool.false_eq_true, ↓reduceIte] at htarget ⊢
      split at htarget
      · exact ih htarget
      · cases htarget

end RobotAdmin.FileSystem
