import RobotAdmin.Proofs.FileSystem.Directories

namespace RobotAdmin

/-- A path whose last name is that of an entry. -/
structure Path.NamesEntry (path : Path) : Prop where
  exists_last : ∃ before last, path.names = before ++ [last] ∧ last ≠ Path.dot ∧ last ≠ Path.dotDot
  endsInSlash_eq : path.endsInSlash = false

/-- The directory that holds an entry is named by some of the names of its path. -/
theorem Path.NamesEntry.tail_components_sublist {path : Path} (hpath : path.NamesEntry) :
    path.components.tail.reverse.Sublist path.names := by
  obtain ⟨before, last, hnames, hdot, _⟩ := hpath.exists_last
  rw [Path.reverse_tail_components hnames hdot, hnames]
  exact (Path.withoutDots_sublist ..).trans (List.sublist_append_left ..)

theorem Path.NamesEntry.isName_of_mem {path : Path} (hpath : path.NamesEntry) :
    ∀ name ∈ path.components.tail, Path.IsName name := fun _ hname =>
  Path.isName_of_mem_names (hpath.tail_components_sublist.subset (List.mem_reverse.mpr hname))

namespace FileSystem

/-- A file is written in the place of an entry that is no directory. -/
theorem write_cases {files written : FileSystem} {path : Path} {bytes : List UInt8}
    (hwrite : files.write path bytes = .ok written) :
    ∃ parent name, files.target path = .ok (.entry parent name) ∧ path.endsInSlash = false ∧
      files.get? (name :: parent) ≠ some .directory ∧ written = files.put (name :: parent) (.file bytes) := by
  unfold write at hwrite
  split at hwrite
  · cases hwrite
  · cases hwrite
  · rename_i parent name htarget
    split at hwrite
    · cases hwrite
    · rename_i hplace
      obtain ⟨hslash, hfile⟩ : path.endsInSlash = false ∧ files.get? (name :: parent) ≠ some .directory := by
        simpa using hplace
      exact ⟨parent, name, htarget, hslash, hfile, (Except.ok.inj hwrite).symm⟩

/-- What is removed is a file. -/
theorem remove_cases {files removed : FileSystem} {path : Path} (hremove : files.remove path = .ok removed) :
    ∃ parent name bytes, files.target path = .ok (.entry parent name) ∧
      files.get? (name :: parent) = some (.file bytes) ∧ removed = files.erase (name :: parent) := by
  unfold remove at hremove
  split at hremove
  · cases hremove
  · cases hremove
  · rename_i parent name htarget
    split at hremove
    · cases hremove
    · cases hremove
    · rename_i bytes hfile
      split at hremove
      · cases hremove
      · exact ⟨parent, name, bytes, htarget, hfile, (Except.ok.inj hremove).symm⟩

/-- What is written is found. -/
theorem find_of_write {files written : FileSystem} {path : Path} {bytes : List UInt8}
    (hwrite : files.write path bytes = .ok written) : written.find path = .ok (.file bytes) := by
  obtain ⟨parent, name, htarget, hslash, hfile, rfl⟩ := write_cases hwrite
  rw [find, target_of_keeps (keeps_put_file hfile bytes) htarget]
  simp [Target.location, hslash]

/-- The place that a path leads to, whether something is there or not. -/
def Denotes (files : FileSystem) (path : Path) (location : Location) : Prop :=
  ∃ target, files.target path = .ok target ∧ target.location = location

theorem Denotes.of_keeps {files later : FileSystem} {path : Path} {location : Location} (hkeeps : files.Keeps later)
    (hdenotes : files.Denotes path location) : later.Denotes path location := by
  obtain ⟨target, htarget, hlocation⟩ := hdenotes
  exact ⟨target, target_of_keeps hkeeps htarget, hlocation⟩

/-- Writing a file changes nothing but the place that its path leads to. -/
theorem get?_of_write {files written : FileSystem} {path : Path} {bytes : List UInt8}
    (hwrite : files.write path bytes = .ok written) {location : Location}
    (hother : ¬ written.Denotes path location) : written.get? location = files.get? location := by
  obtain ⟨parent, name, htarget, _, hfile, rfl⟩ := write_cases hwrite
  refine get?_put_of_ne fun hsame => hother ?_
  exact Denotes.of_keeps (keeps_put_file hfile bytes) ⟨_, htarget, hsame.symm⟩

theorem get?_of_remove {files removed : FileSystem} {path : Path} (hremove : files.remove path = .ok removed)
    {location : Location} (hother : ¬ removed.Denotes path location) :
    removed.get? location = files.get? location := by
  obtain ⟨parent, name, bytes, htarget, hfile, rfl⟩ := remove_cases hremove
  refine get?_erase_of_ne fun hsame => hother ?_
  exact Denotes.of_keeps (keeps_erase (by simp [hfile])) ⟨_, htarget, hsame.symm⟩

/-- An entry of its own name is looked up in a directory. -/
theorem exists_entry_of_target {files : FileSystem} {path : Path} (hpath : path.NamesEntry) {target : Target}
    (htarget : files.target path = .ok target) : ∃ parent name, target = .entry parent name := by
  obtain ⟨before, last, hnames, hdot, hdotDot⟩ := hpath.exists_last
  obtain ⟨_, htarget⟩ := target_eq_ok_iff.mp htarget
  rw [hnames] at htarget
  obtain ⟨place, _, hstep⟩ := enter_of_targetFrom_concat htarget
  have hdirectory := directory_of_step hstep
  rw [step, if_neg (by simp [hdirectory]), if_neg hdot, if_neg hdotDot] at hstep
  split at hstep
  · cases hstep
  · obtain rfl := Except.ok.inj hstep
    exact ⟨place, last, rfl⟩

/-- What is found under the name of an entry is that entry. -/
theorem exists_entry_of_find {files : FileSystem} {path : Path} (hpath : path.NamesEntry) {found : Entry}
    (hfind : files.find path = .ok found) :
    ∃ parent name, files.target path = .ok (.entry parent name) ∧ files.get? (name :: parent) = some found := by
  unfold find at hfind
  cases htarget : files.target path with
  | error cause => simp [htarget] at hfind
  | ok target =>
    obtain ⟨parent, name, rfl⟩ := exists_entry_of_target hpath htarget
    refine ⟨parent, name, rfl, ?_⟩
    simp only [htarget, Target.location] at hfind
    cases hentry : files.get? (name :: parent) with
    | none => simp [hentry] at hfind
    | some entry =>
      cases entry <;> simpa [hentry, hpath.endsInSlash_eq] using hfind

/-- A file is written unless its path leads nowhere or to a directory. -/
theorem find_of_write_error {files : FileSystem} {path : Path} (hpath : path.NamesEntry) {bytes : List UInt8}
    {fault : FileError} (hwrite : files.write path bytes = .error fault) (held : List UInt8) :
    files.find path ≠ .ok (.file held) := by
  intro hfind
  obtain ⟨parent, name, htarget, hentry⟩ := exists_entry_of_find hpath hfind
  simp [write, htarget, hentry, hpath.endsInSlash_eq] at hwrite

theorem find_of_get?_none {files : FileSystem} {path : Path} {target : Target}
    (htarget : files.target path = .ok target)
    (hnone : files.get? target.location = none) : files.find path = .error .notFound := by
  simp only [find, htarget, hnone]

/-- What is removed is not found any more. -/
theorem find_of_remove {files removed : FileSystem} {path : Path} (hremove : files.remove path = .ok removed) :
    removed.find path = .error .notFound := by
  obtain ⟨parent, name, bytes, htarget, hfile, rfl⟩ := remove_cases hremove
  exact find_of_get?_none (target_of_keeps (keeps_erase (by simp [hfile])) htarget) (get?_erase_self (by simp))

/-- A file that is found can be removed, which leaves its place empty. -/
theorem remove_of_find {files : FileSystem} {path : Path} {bytes : List UInt8} (hpath : path.NamesEntry)
    (hfind : files.find path = .ok (.file bytes)) :
    ∃ removed target, files.remove path = .ok removed ∧ removed.target path = .ok target ∧
      removed.get? target.location = none := by
  obtain ⟨parent, name, htarget, hentry⟩ := exists_entry_of_find hpath hfind
  refine ⟨files.erase (name :: parent), .entry parent name, ?_, ?_, get?_erase_self (by simp)⟩
  · simp [remove, htarget, hentry, hpath.endsInSlash_eq]
  · exact target_of_keeps (keeps_erase (by simp [hentry])) htarget

theorem remove_of_find_directory {files : FileSystem} {path : Path} (hpath : path.NamesEntry)
    (hfind : files.find path = .ok .directory) : files.remove path = .error .isDirectory := by
  obtain ⟨parent, name, htarget, hentry⟩ := exists_entry_of_find hpath hfind
  simp [remove, htarget, hentry]

theorem enter_withoutDots (files : FileSystem) (path : Path) (names : List Path.Name) (location : Location) :
    files.enter location (Path.withoutDots path.isAbsolute names) = files.enter location names := by
  cases names with
  | nil => rfl
  | cons first rest =>
    have hrest : files.enter location (first :: rest.filter (· != Path.dot)) = files.enter location (first :: rest) := by
      rw [enter, enter]
      cases files.step location first with
      | error fault => rfl
      | ok target => exact enter_filter_dot files rest target.location
    cases hdot : path.isAbsolute && first == Path.dot with
    | false =>
      rw [Path.withoutDots, hdot, if_neg Bool.false_ne_true]
      exact hrest
    | true =>
      obtain ⟨_, hfirst⟩ := Bool.and_eq_true_iff.mp hdot
      obtain rfl := beq_iff_eq.mp hfirst
      rw [Path.withoutDots, hdot, if_pos rfl, ← hrest, enter_dot]
      rfl

/-- The names of the directory that holds an entry lead to a directory wherever the entry can be looked up. -/
theorem isDirectory_above_entry {files : FileSystem} {path : Path} (hpath : path.NamesEntry)
    (hne : path.components.tail ≠ []) {target : Target} (htarget : files.target path = .ok target) :
    files.isDirectory (Path.ofComponents path.isAbsolute path.components.tail) = true := by
  obtain ⟨before, last, hnames, hdot, _⟩ := hpath.exists_last
  obtain ⟨hadmissible, hwalk⟩ := target_eq_ok_iff.mp htarget
  rw [hnames] at hwalk
  obtain ⟨place, hplace, _⟩ := enter_of_targetFrom_concat hwalk
  rw [← enter_withoutDots files path, ← Path.reverse_tail_components hnames hdot] at hplace
  exact isDirectory_eq_true_iff.mpr
    (find_ofComponents hadmissible hne hpath.isName_of_mem hpath.tail_components_sublist hplace)

/-- Where the directories above an entry could not be made, the entry is not found. -/
theorem find_of_ensureParent_error {files made : FileSystem} {path : Path} (hpath : path.NamesEntry)
    {fault : FileError} (hfault : files.ensureParent path = (.error fault, made)) (entry : Entry) :
    made.find path ≠ .ok entry := by
  intro hfind
  have hmissing := isDirectory_of_ensureDirectories_error hpath.isName_of_mem hfault
  have hne : path.components.tail ≠ [] := by
    intro hnil
    rw [ensureParent, hnil] at hfault
    cases hfault
  unfold find at hfind
  cases htarget : made.target path with
  | error cause => simp [htarget] at hfind
  | ok target =>
    rw [isDirectory_above_entry hpath hne htarget] at hmissing
    cases hmissing

end FileSystem

end RobotAdmin
