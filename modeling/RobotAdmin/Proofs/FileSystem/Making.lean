import RobotAdmin.Proofs.FileSystem.Entries

namespace RobotAdmin.FileSystem

/-- A place at which one of the directories above the entry that a path names is reached. -/
def IsAbove (files : FileSystem) (path : Path) (location : Location) : Prop :=
  ∃ above, above ≠ [] ∧ above <:+ path.components.tail ∧ ∃ target,
    files.target (Path.ofComponents path.isAbsolute above) = .ok target ∧ target.location = location

section

variable {files made : FileSystem} {path : Path} {location : Location}

/-- Making a directory changes nothing but the place that its path leads to. -/
theorem target_of_makeDirectory (hmade : files.makeDirectory path = .ok made)
    (hchanged : made.get? location ≠ files.get? location) :
    ∃ target, made.target path = .ok target ∧ target.location = location := by
  have hextends := extends_makeDirectory hmade
  unfold makeDirectory at hmade
  split at hmade
  · cases hmade
  · cases hmade
  · rename_i parent name htarget
    split at hmade
    · cases hmade
    · obtain rfl := Except.ok.inj hmade
      refine ⟨_, target_of_keeps hextends.toKeeps htarget, ?_⟩
      by_cases hsame : location = name :: parent
      · exact hsame.symm
      · exact absurd (get?_put_of_ne hsame) hchanged

theorem target_of_ensureDirectory (hmade : files.ensureDirectory path = .ok made)
    (hchanged : made.get? location ≠ files.get? location) :
    ∃ target, made.target path = .ok target ∧ target.location = location := by
  unfold ensureDirectory at hmade
  split at hmade
  · rename_i found hfound
    obtain rfl := Except.ok.inj hmade
    exact target_of_makeDirectory hfound hchanged
  · split at hmade
    · obtain rfl := Except.ok.inj hmade
      exact absurd rfl hchanged
    · cases hmade

/-- What changes while directories are made is reached along one of their paths afterwards. -/
theorem target_of_ensureDirectories (absolute : Bool) (components : List Path.Name) (files : FileSystem)
    (hchanged : (files.ensureDirectories absolute components).2.get? location ≠ files.get? location) :
    ∃ above, above ≠ [] ∧ above <:+ components ∧ ∃ target,
      (files.ensureDirectories absolute components).2.target (Path.ofComponents absolute above) = .ok target ∧
        target.location = location := by
  induction components generalizing files with
  | nil => exact absurd rfl hchanged
  | cons name above ih =>
    have habove := ih files
    unfold ensureDirectories at hchanged ⊢
    dsimp only at hchanged ⊢
    split at hchanged
    · rename_i made hmade
      exact ⟨_, by simp, List.suffix_refl _, target_of_ensureDirectory hmade hchanged⟩
    · rcases hmade : files.ensureDirectories absolute above with ⟨fault | ⟨⟩, made⟩
      · rw [hmade] at habove hchanged
        obtain ⟨some, hne, hsuffix, htarget⟩ := habove hchanged
        exact ⟨some, hne, hsuffix.trans (List.suffix_cons ..), htarget⟩
      · rw [hmade] at habove hchanged
        dsimp only at habove hchanged ⊢
        split at hchanged
        · rename_i last hlast
          -- A place changes with the directories above or with the last one; the former stay where they are.
          by_cases hsame : made.get? location = files.get? location
          · exact ⟨_, by simp, List.suffix_refl _, target_of_ensureDirectory hlast (hsame ▸ hchanged)⟩
          · obtain ⟨some, hne, hsuffix, target, htarget, hlocation⟩ := habove hsame
            exact ⟨some, hne, hsuffix.trans (List.suffix_cons ..), target,
              target_of_keeps (extends_ensureDirectory hlast).toKeeps htarget, hlocation⟩
        · obtain ⟨some, hne, hsuffix, htarget⟩ := habove hchanged
          exact ⟨some, hne, hsuffix.trans (List.suffix_cons ..), htarget⟩
    · exact absurd rfl hchanged

theorem isAbove_of_ensureParent (hchanged : (files.ensureParent path).2.get? location ≠ files.get? location) :
    (files.ensureParent path).2.IsAbove path location :=
  target_of_ensureDirectories path.isAbsolute path.components.tail files hchanged

end

end RobotAdmin.FileSystem
